import Mathlib.Data.List.GetD
import Mathlib.Tactic.IntervalCases
import JsonSchema.Format
import JsonSchema.Proofs.Text.Digits
/-!
# Timestamps

The texts that have the format `date-time` are those that write a timestamp
(`isValid_dateTime_iff`): a day of the Gregorian calendar, a time of that day and an offset, each
number in its width. `Timestamp` cannot be built from a day or time that does not exist.

Every reader accepts just what is written in front of what it leaves, so the text of a timestamp is
taken apart from left to right. Only the digits of a fraction end where something else begins, which
the offset does.
-/

namespace JsonSchema.Format

open JsonSchema.Text

/-! ### The calendar -/

/-- Every fourth year is a leap year, but of the centuries only every fourth. -/
def Leap (y : Nat) : Prop := 4 ∣ y ∧ (100 ∣ y → 400 ∣ y)

instance (y : Nat) : Decidable (Leap y) :=
  inferInstanceAs (Decidable (4 ∣ y ∧ (100 ∣ y → 400 ∣ y)))

/-- The numbers of days of the months of a year. -/
def monthLengths (y : Nat) : List Nat :=
  [31, if Leap y then 29 else 28, 31, 30, 31, 30, 31, 31, 30, 31, 30, 31]

/-- The number of days of a month. Months are counted from one. -/
def monthLength (y m : Nat) : Nat := (monthLengths y).getD (m - 1) 0

theorem monthLength_le (y m : Nat) : monthLength y m ≤ 31 := by
  have all : ∀ n ∈ monthLengths y, n ≤ 31 := by
    unfold monthLengths
    split <;> decide
  unfold monthLength
  by_cases h : m - 1 < (monthLengths y).length
  · rw [List.getD_eq_getElem _ _ h]
    exact all _ (List.getElem_mem h)
  · rw [List.getD_eq_default _ _ (Nat.le_of_not_lt h)]
    exact Nat.zero_le _

theorem isLeapYear_iff {y : Nat} : isLeapYear y = true ↔ Leap y := by
  simp only [isLeapYear, Leap, Bool.and_eq_true, Bool.or_eq_true, beq_iff_eq, bne_iff_ne]
  omega

theorem daysInMonth_eq {y m : Nat} (h : 1 ≤ m ∧ m ≤ 12) : daysInMonth y m = monthLength y m := by
  obtain ⟨h1, h12⟩ := h
  interval_cases m <;> simp only [daysInMonth, monthLength, monthLengths, isLeapYear_iff] <;> rfl

theorem daysInMonth_eq_zero {y m : Nat} (h : ¬(1 ≤ m ∧ m ≤ 12)) : daysInMonth y m = 0 := by
  unfold daysInMonth
  split <;> omega

theorem isDate_iff {y m d : Nat} :
    isDate y m d = true ↔ (1 ≤ m ∧ m ≤ 12) ∧ 1 ≤ d ∧ d ≤ monthLength y m := by
  simp only [isDate, Bool.and_eq_true, decide_eq_true_eq]
  by_cases h : 1 ≤ m ∧ m ≤ 12
  · rw [daysInMonth_eq h, and_iff_right h]
  · rw [daysInMonth_eq_zero h]
    exact iff_of_false (by omega) fun hm => h hm.1

/-! ### What timestamps are made of -/

/-- A day in a year of four digits. -/
structure Day where
  year : Nat
  month : Nat
  day : Nat
  year_lt : year < 10000
  month_mem : 1 ≤ month ∧ month ≤ 12
  day_mem : 1 ≤ day ∧ day ≤ monthLength year month

def Day.text (d : Day) : List Char :=
  padded 4 d.year ++ '-' :: (padded 2 d.month ++ '-' :: padded 2 d.day)

/-- A minute of a day. -/
structure Time where
  hour : Nat
  minute : Nat
  hour_lt : hour < 24
  minute_lt : minute < 60

def Time.text (t : Time) : List Char := padded 2 t.hour ++ ':' :: padded 2 t.minute

/-- The digits of a fraction of a second. -/
structure Fraction where
  digits : List Char
  ne_nil : digits ≠ []
  isDigit : ∀ c ∈ digits, c.isDigit = true

/-- A point and the digits, or nothing. -/
def Fraction.text : Option Fraction → List Char
  | none => []
  | some f => '.' :: f.digits

/-- How far local time is ahead of or behind universal time. -/
inductive Offset where
  | utc
  | ahead (t : Time)
  | behind (t : Time)

def Offset.text : Offset → List Char
  | .utc => ['Z']
  | .ahead t => '+' :: t.text
  | .behind t => '-' :: t.text

structure Timestamp where
  day : Day
  time : Time
  second : Nat
  fraction : Option Fraction
  offset : Offset
  second_lt : second < 60

def Timestamp.text (t : Timestamp) : List Char :=
  t.day.text ++ 'T' :: (t.time.text ++ ':' :: (padded 2 t.second ++
    (Fraction.text t.fraction ++ t.offset.text)))

/-! ### Readers -/

variable {cs rest : List Char} {n w h m : Nat} {c : Char}

theorem digits?_eq_some :
    digits? w cs = some (n, rest) ↔ n < 10 ^ w ∧ cs = padded w n ++ rest := by
  simp only [digits?]
  constructor
  · intro h
    split at h
    case isTrue hd =>
      obtain ⟨hlen, hdigit⟩ := hd
      cases h
      obtain ⟨digits, bound⟩ := padded_decimal _ (List.all_eq_true.1 hdigit)
      rw [hlen] at digits bound
      exact ⟨bound, by rw [digits, List.take_append_drop]⟩
    case isFalse => cases h
  · rintro ⟨bound, rfl⟩
    have front : (padded w n ++ rest).take w = padded w n := List.take_left' (length_padded w n)
    have back : (padded w n ++ rest).drop w = rest := List.drop_left' (length_padded w n)
    rw [front, back, decimal_padded bound,
      if_pos ⟨length_padded w n, List.all_eq_true.2 isDigit_of_mem_padded⟩]

theorem char?_eq_some : char? c cs = some rest ↔ cs = c :: rest := by
  cases cs with
  | nil => simp [char?]
  | cons x r => simp [char?]

theorem clock?_eq_some : clock? cs = some (h, m, rest) ↔
    h < 100 ∧ m < 100 ∧ cs = padded 2 h ++ ':' :: (padded 2 m ++ rest) := by
  simp only [clock?, Option.bind_eq_bind, Option.bind_eq_some_iff, Prod.exists, digits?_eq_some,
    char?_eq_some]
  constructor
  · rintro ⟨h, _, ⟨hh, rfl⟩, _, rfl, m, _, ⟨hm, rfl⟩, ⟨⟩⟩
    exact ⟨hh, hm, rfl⟩
  · rintro ⟨hh, hm, rfl⟩
    exact ⟨h, _, ⟨hh, rfl⟩, _, rfl, m, _, ⟨hm, rfl⟩, rfl⟩

theorem clock?_text (t : Time) : clock? t.text = some (t.hour, t.minute, []) := by
  have hour_lt := t.hour_lt
  have minute_lt := t.minute_lt
  exact clock?_eq_some.2 ⟨by omega, by omega, by rw [List.append_nil]; rfl⟩

theorem isOffset_iff : isOffset cs = true ↔ ∃ o : Offset, cs = o.text := by
  constructor
  · intro h
    unfold isOffset at h
    split at h
    case h_1 => exact ⟨.utc, rfl⟩
    case h_2 sign r _ =>
      simp only [Bool.and_eq_true, Bool.or_eq_true, beq_iff_eq] at h
      obtain ⟨hsign, hclock⟩ := h
      split at hclock
      case h_1 hour minute hread =>
        obtain ⟨-, -, rfl⟩ := clock?_eq_some.1 hread
        simp only [Bool.and_eq_true, decide_eq_true_eq] at hclock
        rw [List.append_nil]
        rcases hsign with rfl | rfl
        · exact ⟨.ahead ⟨hour, minute, hclock.1, hclock.2⟩, rfl⟩
        · exact ⟨.behind ⟨hour, minute, hclock.1, hclock.2⟩, rfl⟩
      case h_2 => cases hclock
    case h_3 => cases h
  · rintro ⟨o, rfl⟩
    cases o with
    | utc => rfl
    | ahead t => simp [Offset.text, isOffset, clock?_text, t.hour_lt, t.minute_lt]
    | behind t => simp [Offset.text, isOffset, clock?_text, t.hour_lt, t.minute_lt]

/-- A fraction ends where something begins that is neither a point nor a digit. -/
theorem fraction?_text (f : Option Fraction) {c : Char} {r : List Char} (point : c ≠ '.')
    (digit : c.isDigit = false) : fraction? (Fraction.text f ++ c :: r) = some (c :: r) := by
  cases f with
  | none =>
    unfold fraction?
    split
    next same => exact absurd (List.cons.inj same).1 point
    next => rfl
  | some f =>
    have front : (f.digits ++ c :: r).takeWhile Char.isDigit = f.digits := by
      rw [List.takeWhile_append_of_pos f.isDigit]
      simp [digit]
    have back : (f.digits ++ c :: r).dropWhile Char.isDigit = c :: r := by
      rw [List.dropWhile_append_of_pos f.isDigit]
      simp [digit]
    simp only [Fraction.text, fraction?, List.cons_append, front, back, List.isEmpty_iff,
      if_neg f.ne_nil]

theorem fraction?_eq_some {o : Offset} :
    fraction? cs = some o.text ↔ ∃ f, cs = Fraction.text f ++ o.text := by
  constructor
  · intro h
    unfold fraction? at h
    split at h
    case h_1 r =>
      split at h
      · cases h
      next hne =>
        refine ⟨some ⟨r.takeWhile Char.isDigit, by simpa using hne, ?_⟩, ?_⟩
        · exact List.all_eq_true.1 List.all_takeWhile
        · rw [Option.some.injEq] at h
          rw [← h, Fraction.text, List.cons_append, List.takeWhile_append_dropWhile]
    case h_2 => exact ⟨none, by simpa [Fraction.text] using h⟩
  · rintro ⟨f, rfl⟩
    cases o with
    | utc => exact fraction?_text f (by decide) (by decide)
    | ahead t => exact fraction?_text f (by decide) (by decide)
    | behind t => exact fraction?_text f (by decide) (by decide)

theorem isDateTime_iff : isDateTime cs = true ↔ ∃ t : Timestamp, cs = t.text := by
  have getD_eq_true (o : Option Bool) : o.getD false = true ↔ o = some true := by
    cases o <;> simp
  simp only [isDateTime, getD_eq_true, Option.bind_eq_bind, Option.bind_eq_some_iff,
    Prod.exists, digits?_eq_some, char?_eq_some, clock?_eq_some, Option.pure_def, Option.some.injEq,
    Bool.and_eq_true, decide_eq_true_eq, isDate_iff, isOffset_iff]
  constructor
  · rintro ⟨y, _, ⟨hy, rfl⟩, _, rfl, m, _, ⟨-, rfl⟩, _, rfl, d, _, ⟨-, rfl⟩, _, rfl,
      hour, minute, _, ⟨-, -, rfl⟩, _, rfl, second, _, ⟨-, rfl⟩, _, hfraction,
      ⟨⟨⟨⟨hm, hd⟩, hhour⟩, hminute⟩, hsecond⟩, o, rfl⟩
    obtain ⟨f, rfl⟩ := fraction?_eq_some.1 hfraction
    let day : Day := ⟨y, m, d, hy, hm, hd⟩
    let time : Time := ⟨hour, minute, hhour, hminute⟩
    refine ⟨⟨day, time, second, f, o, hsecond⟩, ?_⟩
    simp only [Timestamp.text, Day.text, Time.text, day, time, List.append_assoc, List.cons_append]
  · rintro ⟨⟨day, time, second, f, o, hsecond⟩, rfl⟩
    have hm := day.month_mem
    have hd := day.day_mem
    have hlength := monthLength_le day.year day.month
    have hhour := time.hour_lt
    have hminute := time.minute_lt
    refine ⟨day.year, _, ⟨day.year_lt, ?_⟩, _, rfl, day.month, _, ⟨by omega, rfl⟩, _, rfl,
      day.day, _, ⟨by omega, rfl⟩, _, rfl, time.hour, time.minute, _, ⟨by omega, by omega, rfl⟩, _,
      rfl, second, _, ⟨by omega, rfl⟩, _, fraction?_eq_some.2 ⟨f, rfl⟩,
      ⟨⟨⟨⟨hm, hd⟩, hhour⟩, hminute⟩, hsecond⟩, o, rfl⟩
    simp only [Timestamp.text, Day.text, Time.text, List.append_assoc, List.cons_append]

/-- The texts that have the format are those of timestamps. -/
theorem isValid_dateTime_iff {s : String} :
    Format.dateTime.isValid s = true ↔ ∃ t : Timestamp, s = String.ofList t.text := by
  have read : Format.dateTime.isValid s = isDateTime s.toList := rfl
  rw [read, isDateTime_iff]
  constructor
  · rintro ⟨t, ht⟩
    exact ⟨t, by rw [← ht, String.ofList_toList]⟩
  · rintro ⟨t, rfl⟩
    exact ⟨t, String.toList_ofList⟩

/-- The year zero is a leap year, the year 1900 is not. -/
example : Format.dateTime.isValid "0000-02-29T23:59:59.5-23:59" = true ∧
    Format.dateTime.isValid "1900-02-29T23:59:59Z" = false := by decide

end JsonSchema.Format

import JsonSchema.Proofs.Format.Address
import JsonSchema.Proofs.Format.DateTime
import JsonSchema.Proofs.Pattern.Languages
/-!
# The pattern of timestamps

The pattern of the format `date-time` matches numbers in their widths (`Stamp`). It holds minutes
and seconds below sixty, but leaves days and hours to a look at what its groups have captured. These
groups stand at fixed places, that of the offset counted from the end (`isValid_dateTime_eq`).
-/

namespace JsonSchema.Format

open Grammar JsonSchema.Text
open Pattern (Regex)
open Pattern.Regex (inOrder anchored)
open Pattern.CharSet (singles classOf mem_classOf mem_classOf_singles)
open scoped Computability

variable {cs : List Char}

def dateTimePattern : String :=
  "^([0-9]\x7b4\x7d)-([0-9]\x7b2\x7d)-([0-9]\x7b2\x7d)T([0-9]\x7b2\x7d):[0-5][0-9]:[0-5][0-9]" ++
    "(?:\\.[0-9]+)?(?:Z|[+\\-]([0-9]\x7b2\x7d):[0-5][0-9])$"

def digitsPart (n : Nat) : Regex := .repeated (.oneOf [('0', '9')]) n (some n)

/-- A number of two digits below sixty. -/
def sixtyParts : List Regex := [.oneOf [('0', '5')], .oneOf [('0', '9')]]

def fractionPart : Regex :=
  .repeated (inOrder [.char '.', .repeated (.oneOf [('0', '9')]) 1 none]) 0 (some 1)

def offsetPart : Regex :=
  .alt (.char 'Z') (inOrder (.oneOf (singles "+-") :: digitsPart 2 :: .char ':' :: sixtyParts))

def dateTimeParts : List Regex :=
  digitsPart 4 :: .char '-' :: digitsPart 2 :: .char '-' :: digitsPart 2 :: .char 'T' ::
    digitsPart 2 :: .char ':' :: (sixtyParts ++ .char ':' :: (sixtyParts ++
      [fractionPart, offsetPart]))

theorem read?_dateTime : Regex.read? dateTimePattern = some (anchored dateTimeParts) := by
  decide +kernel

/-! ### What the pattern matches -/

/-- A sign, and the hours and minutes behind it. -/
structure Shift where
  sign : Char
  hour : Fin (10 ^ 2)
  minute : Fin 60
  sign_mem : sign ∈ "+-".toList

def Shift.text : Option Shift → List Char
  | none => ['Z']
  | some o => o.sign :: (padded 2 o.hour ++ ':' :: padded 2 o.minute)

/-- What has the form of a timestamp. The calendar need not have the day. -/
structure Stamp where
  year : Fin (10 ^ 4)
  month : Fin (10 ^ 2)
  day : Fin (10 ^ 2)
  hour : Fin (10 ^ 2)
  minute : Fin 60
  second : Fin 60
  fraction : Option Fraction
  shift : Option Shift

def Stamp.text (t : Stamp) : List Char :=
  padded 4 t.year ++ '-' :: (padded 2 t.month ++ '-' :: (padded 2 t.day ++ 'T' ::
    (padded 2 t.hour ++ ':' :: (padded 2 t.minute ++ ':' :: (padded 2 t.second ++
      (Fraction.text t.fraction ++ Shift.text t.shift))))))

variable {A L : Language Char} {w n i : Nat} {c d : Char} {r : List Char}

theorem mem_digit : c ∈ classOf [('0', '9')] ↔ c.isDigit = true := by
  simp [mem_classOf, isDigit_iff_le]

/-- A language whose texts are written by some things, in front of another. -/
theorem mem_mul_of_forall {α : Type} {text : α → List Char}
    (h : ∀ cs, cs ∈ A ↔ ∃ x, cs = text x) :
    cs ∈ A * L ↔ ∃ x, ∃ r ∈ L, cs = text x ++ r := by
  rw [Language.mem_mul]
  constructor
  · rintro ⟨a, ha, r, hr, rfl⟩
    obtain ⟨x, rfl⟩ := (h a).1 ha
    exact ⟨x, r, hr, rfl⟩
  · rintro ⟨x, r, hr, rfl⟩
    exact ⟨text x, (h _).2 ⟨x, rfl⟩, r, hr, rfl⟩

theorem mem_digitsPart : cs ∈ (digitsPart w).lang ↔ ∃ n : Fin (10 ^ w), cs = padded w n := by
  rw [digitsPart, Regex.lang_times, Regex.lang_oneOf, mem_one_pow]
  simp only [mem_digit]
  constructor
  · rintro ⟨rfl, digits⟩
    obtain ⟨same, bound⟩ := padded_decimal cs digits
    exact ⟨⟨_, bound⟩, same.symm⟩
  · rintro ⟨n, rfl⟩
    exact ⟨length_padded w n, isDigit_of_mem_padded⟩

/-- Two digits write a number below sixty if the first is at most five. -/
theorem decimal_lt_iff (hc : c.isDigit = true) (hd : d.isDigit = true) :
    decimal [c, d] < 60 ↔ c ≤ '5' := by
  rw [isDigit_iff_le] at hc hd
  simp [decimal, le_iff_toNat] at *
  omega

theorem mem_below_six : c ∈ classOf [('0', '5')] ↔ c.isDigit = true ∧ c ≤ '5' := by
  simp [mem_classOf, isDigit_iff_le, le_iff_toNat]
  omega

theorem mem_sixtyParts : cs ∈ (inOrder sixtyParts).lang ↔ ∃ n : Fin 60, cs = padded 2 n := by
  simp only [sixtyParts, Regex.lang_inOrder_cons, Regex.lang_inOrder_nil, mul_one, Regex.lang_oneOf,
    mem_one_mul, mem_one, mem_digit, mem_below_six]
  constructor
  · rintro ⟨c, _, rfl, ⟨hc, five⟩, d, hd, rfl⟩
    obtain ⟨same, -⟩ := padded_decimal [c, d] (by simp [hc, hd])
    exact ⟨⟨_, (decimal_lt_iff hc hd).2 five⟩, same.symm⟩
  · rintro ⟨n, rfl⟩
    obtain ⟨c, d, pair⟩ := List.length_eq_two.1 (length_padded 2 n)
    have digits : ∀ x ∈ padded 2 n, x.isDigit = true := isDigit_of_mem_padded
    have value : decimal (padded 2 n) = n := decimal_padded (n.2.trans (by decide))
    rw [pair] at digits value ⊢
    have hc : c.isDigit = true := digits c (by simp)
    have hd : d.isDigit = true := digits d (by simp)
    exact ⟨c, _, rfl, ⟨hc, (decimal_lt_iff hc hd).1 (value ▸ n.2)⟩, d, hd, rfl⟩

theorem mem_fractionPart : cs ∈ fractionPart.lang ↔ ∃ f, cs = Fraction.text f := by
  simp only [fractionPart, Regex.lang_option, Regex.lang_inOrder_cons, Regex.lang_char,
    Regex.lang_some, Regex.lang_oneOf, Regex.lang_inOrder_nil, mul_one, mem_opt, mem_char_mul,
    mem_one_plus, mem_digit]
  constructor
  · rintro (rfl | ⟨digits, rfl, ne, all⟩)
    · exact ⟨none, rfl⟩
    · exact ⟨some ⟨digits, ne, all⟩, rfl⟩
  · rintro ⟨_ | f, rfl⟩
    · exact .inl rfl
    · exact .inr ⟨f.digits, rfl, f.ne_nil, f.isDigit⟩

theorem mem_offsetPart : cs ∈ offsetPart.lang ↔ ∃ o, cs = Shift.text o := by
  have parts : cs ∈ offsetPart.lang ↔ cs = ['Z'] ∨ ∃ sign ∈ "+-".toList, ∃ h : Fin (10 ^ 2),
      ∃ m : Fin 60, cs = sign :: (padded 2 h ++ ':' :: padded 2 m) := by
    rw [offsetPart, Regex.lang, Language.mem_add]
    refine or_congr ?_ ?_
    · simp [Grammar.char, mem_one]
    · simp only [Regex.lang_inOrder_cons, Regex.lang_oneOf, mem_one_mul, mem_classOf_singles,
        mem_mul_of_forall fun _ => mem_digitsPart, Regex.lang_char, mem_char_mul, mem_sixtyParts]
      constructor
      · rintro ⟨sign, _, rfl, hs, h, _, ⟨_, rfl, m, rfl⟩, rfl⟩
        exact ⟨sign, hs, h, m, rfl⟩
      · rintro ⟨sign, hs, h, m, rfl⟩
        exact ⟨sign, _, rfl, hs, h, _, ⟨_, rfl, m, rfl⟩, rfl⟩
  rw [parts]
  constructor
  · rintro (rfl | ⟨sign, hs, h, m, rfl⟩)
    · exact ⟨none, rfl⟩
    · exact ⟨some ⟨sign, h, m, hs⟩, rfl⟩
  · rintro ⟨_ | o, rfl⟩
    · exact .inl rfl
    · exact .inr ⟨o.sign, o.sign_mem, o.hour, o.minute, rfl⟩

theorem mem_dateTimeParts : cs ∈ (inOrder dateTimeParts).lang ↔ ∃ t : Stamp, cs = t.text := by
  simp only [dateTimeParts, Regex.lang_inOrder_cons, Regex.lang_inOrder_append,
    Regex.lang_inOrder_nil, mul_one, mem_mul_of_forall fun _ => mem_digitsPart,
    mem_mul_of_forall fun _ => mem_sixtyParts, Regex.lang_char, mem_char_mul,
    mem_mul_of_forall fun _ => mem_fractionPart, mem_offsetPart]
  constructor
  · rintro ⟨y, _, ⟨_, rfl, m, _, ⟨_, rfl, d, _, ⟨_, rfl, h, _, ⟨_, rfl, mi, _, ⟨_, rfl, se, _,
      ⟨f, _, ⟨o, rfl⟩, rfl⟩, rfl⟩, rfl⟩, rfl⟩, rfl⟩, rfl⟩, rfl⟩
    exact ⟨⟨y, m, d, h, mi, se, f, o⟩, rfl⟩
  · rintro ⟨t, rfl⟩
    exact ⟨_, _, ⟨_, rfl, _, _, ⟨_, rfl, _, _, ⟨_, rfl, _, _, ⟨_, rfl, _, _, ⟨_, rfl, _, _,
      ⟨_, _, ⟨_, rfl⟩, rfl⟩, rfl⟩, rfl⟩, rfl⟩, rfl⟩, rfl⟩, rfl⟩

/-! ### What the groups capture -/

/-- The number that so many digits write from a place on. -/
def field (cs : List Char) (i w : Nat) : Nat := decimal ((cs.drop i).take w)

theorem field_eq {n : Fin (10 ^ w)} (h : (cs.drop i).take w = padded w n) : field cs i w = n := by
  rw [field, h, decimal_padded n.2]

/-- The hours of an offset are those of a day, if it has any. -/
def Shift.InDay : Option Shift → Prop
  | none => True
  | some o => o.hour.val < 24

theorem fraction?_shift (f : Option Fraction) (o : Option Shift) :
    fraction? (Fraction.text f ++ Shift.text o) = some (Shift.text o) := by
  rcases o with _ | ⟨sign, h, m, hs⟩
  · exact fraction?_text f (by decide) (by decide)
  · have signs : ∀ c ∈ "+-".toList, c ≠ '.' ∧ c.isDigit = false := forall_mem_of_all (by decide)
    exact fraction?_text f (signs sign hs).1 (signs sign hs).2

theorem isOffset_text {o : Option Shift} :
    isOffset (Shift.text o) = true ↔ Shift.InDay o := by
  rcases o with _ | ⟨sign, h, m, hs⟩
  · exact iff_of_true rfl trivial
  · have sixty : m.val < 100 := m.2.trans (by decide)
    have clock : clock? (padded 2 h ++ ':' :: padded 2 m) = some (h.val, m.val, []) :=
      clock?_eq_some.2 ⟨h.2, sixty, by rw [List.append_nil]⟩
    have signs : ∀ c ∈ "+-".toList, (c == '+' || c == '-') = true := forall_mem_of_all (by decide)
    have read : isOffset (sign :: (padded 2 h ++ ':' :: padded 2 m)) =
        ((sign == '+' || sign == '-') && (h.val < 24 && m.val < 60)) := by
      unfold isOffset
      split
      next same => simp at same
      next same =>
        cases same
        rw [clock]
      next same => cases same
    rw [Shift.text, read, signs sign hs]
    simp [Shift.InDay]

namespace Stamp

variable (t : Stamp)

theorem field_year : field t.text 0 4 = t.year := field_eq rfl

theorem field_month : field t.text 5 2 = t.month := field_eq rfl

theorem field_day : field t.text 8 2 = t.day := field_eq rfl

theorem field_hour : field t.text 11 2 = t.hour := field_eq rfl

/-- What stands in front of the offset. -/
def front : List Char :=
  padded 4 t.year ++ '-' :: (padded 2 t.month ++ '-' :: (padded 2 t.day ++ 'T' ::
    (padded 2 t.hour ++ ':' :: (padded 2 t.minute ++ ':' :: (padded 2 t.second ++
      Fraction.text t.fraction)))))

theorem text_eq : t.text = t.front ++ Shift.text t.shift := by
  simp only [text, front, List.append_assoc, List.cons_append]

theorem inDay_iff : Shift.InDay t.shift ↔ t.text.getLast? = some 'Z' ∨
    field t.text (t.text.length - 5) 2 < 24 := by
  rw [text_eq]
  rcases t.shift with _ | o
  · simp [Shift.text, Shift.InDay]
  · have captured : field (t.front ++ Shift.text (some o))
        ((t.front ++ Shift.text (some o)).length - 5) 2 = o.hour := by
      -- the sign is the sixth character from the end
      have place : (t.front ++ Shift.text (some o)).length - 5 = t.front.length + 1 := by
        simp [Shift.text]
      refine field_eq ?_
      rw [place, ← List.drop_drop, List.drop_left]
      rfl
    have digit : (t.front ++ Shift.text (some o)).getLast? ≠ some 'Z' := by
      intro last
      have among : 'Z' ∈ padded 2 o.minute := by
        have behind : t.front ++ Shift.text (some o) =
            t.front ++ o.sign :: (padded 2 o.hour ++ [':']) ++ padded 2 o.minute := by
          simp [Shift.text]
        rw [behind, List.getLast?_append_of_ne_nil] at last
        · exact List.mem_of_getLast? last
        · exact List.ne_nil_of_length_pos (by simp)
      exact absurd (isDigit_of_mem_padded 'Z' among) (by decide)
    rw [captured, or_iff_right digit]
    rfl

theorem isDateTime_text : isDateTime t.text = true ↔
    isDate t.year t.month t.day = true ∧ t.hour.val < 24 ∧ Shift.InDay t.shift := by
  have digits {w : Nat} (n : Fin (10 ^ w)) (r : List Char) :
      digits? w (padded w n ++ r) = some (n.val, r) := digits?_eq_some.2 ⟨n.2, rfl⟩
  have clock (h : Fin (10 ^ 2)) (m : Fin 60) (r : List Char) :
      clock? (padded 2 h ++ ':' :: (padded 2 m ++ r)) = some (h.val, m.val, r) :=
    clock?_eq_some.2 ⟨h.2, m.2.trans (by decide), rfl⟩
  have sixty (m : Fin 60) (r : List Char) : digits? 2 (padded 2 m ++ r) = some (m.val, r) :=
    digits?_eq_some.2 ⟨m.2.trans (by decide), rfl⟩
  have exact (c : Char) (r : List Char) : char? c (c :: r) = some r := char?_eq_some.2 rfl
  simp [isDateTime, text, digits, clock, sixty, exact, fraction?_shift, isOffset_text, and_assoc]

end Stamp

def Shift.ofOffset : Offset → Option Shift
  | .utc => none
  | .ahead t => some ⟨'+', ⟨t.hour, t.hour_lt.trans (by decide)⟩, ⟨t.minute, t.minute_lt⟩, by decide⟩
  | .behind t => some ⟨'-', ⟨t.hour, t.hour_lt.trans (by decide)⟩, ⟨t.minute, t.minute_lt⟩, by decide⟩

theorem exists_stamp (t : Timestamp) : ∃ u : Stamp, t.text = u.text := by
  have month := t.day.month_mem
  have day := t.day.day_mem
  have length := monthLength_le t.day.year t.day.month
  have hour := t.time.hour_lt
  refine ⟨⟨⟨t.day.year, t.day.year_lt⟩, ⟨t.day.month, by omega⟩, ⟨t.day.day, by omega⟩,
    ⟨t.time.hour, by omega⟩, ⟨t.time.minute, t.time.minute_lt⟩, ⟨t.second, t.second_lt⟩,
    t.fraction, Shift.ofOffset t.offset⟩, ?_⟩
  have offset (o : Offset) : Shift.text (Shift.ofOffset o) = o.text := by cases o <;> rfl
  simp only [Timestamp.text, Day.text, Time.text, Stamp.text, offset, List.append_assoc,
    List.cons_append]

/-- The format `date-time` is its pattern, where the calendar has the day and the hours are below
24. -/
theorem isValid_dateTime_eq : ∃ p, Pattern.compile? dateTimePattern = some p ∧ ∀ s,
    dateTime.isValid s = true ↔ p.isMatch s = true ∧
      isDate (field s.toList 0 4) (field s.toList 5 2) (field s.toList 8 2) = true ∧
      field s.toList 11 2 < 24 ∧
      (s.toList.getLast? = some 'Z' ∨ field s.toList (s.toList.length - 5) 2 < 24) := by
  obtain ⟨p, compiled, matched⟩ := Pattern.exists_compile_anchored read?_dateTime rfl
  refine ⟨p, compiled, fun s => ?_⟩
  rw [matched, mem_dateTimeParts]
  constructor
  · intro valid
    have read : isDateTime s.toList = true := valid
    obtain ⟨t, ht⟩ := isDateTime_iff.1 read
    obtain ⟨u, same⟩ := exists_stamp t
    have text : s.toList = u.text := ht.trans same
    rw [text, u.isDateTime_text, u.inDay_iff] at read
    rw [text, u.field_year, u.field_month, u.field_day, u.field_hour]
    exact ⟨⟨u, rfl⟩, read⟩
  · rintro ⟨⟨u, text⟩, checks⟩
    have read : isDateTime s.toList = true := by
      rw [text, u.isDateTime_text, u.inDay_iff]
      rwa [text, u.field_year, u.field_month, u.field_day, u.field_hour] at checks
    exact read

end JsonSchema.Format

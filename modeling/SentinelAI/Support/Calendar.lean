import SentinelAI.Support.Json
import Mathlib.Order.Monotone.Basic
import Mathlib.Tactic.Linarith

/-!
# Support — Calendar

Dates of the proleptic Gregorian calendar, times of day, and the number of microseconds from the
first of January of year 1 to one: Python's naive `datetime`.

A place on a line that is cut into stretches of any lengths is a stretch and a place in it, and the
order on the line is the lexicographic one (`before_add_lt_iff`); a year is a stretch of days, and
so is a month.

* `WallTime.micros_lt_iff`: a naive date-time is earlier exactly when its fields are smaller, in
  order.
* `WallTime.ofMicros`: the date-time of a number of microseconds, which is in range or overflows.
-/

namespace Support

/-! ### Stretches of a line -/

/-- The length of the first stretches together. -/
def before (size : Nat → Nat) : Nat → Nat
  | 0 => 0
  | i + 1 => before size i + size i

/-- The stretch that a place is in, counted from the `i`-th, and its place there; `fuel` is the
number of stretches. -/
def locate (size : Nat → Nat) : Nat → Nat → Nat → Nat × Nat
  | 0, i, n => (i, n)
  | fuel + 1, i, n => if n < size i then (i, n) else locate size fuel (i + 1) (n - size i)

section Stretches
variable {size : Nat → Nat}

theorem before_mono (size : Nat → Nat) : Monotone (before size) :=
  monotone_nat_of_le_succ fun _ => Nat.le_add_right _ _

/-- **The order on the line** is the lexicographic one. -/
theorem before_add_lt_iff {i j r s : Nat} (hr : r < size i) (hs : s < size j) :
    before size i + r < before size j + s ↔ i < j ∨ i = j ∧ r < s := by
  have after : ∀ {i j r : Nat}, i < j → r < size i → before size i + r < before size j := by
    intro i j r hij hr
    calc before size i + r < before size (i + 1) := Nat.add_lt_add_left hr _
      _ ≤ before size j := before_mono size hij
  rcases Nat.lt_trichotomy i j with hij | rfl | hij
  · exact iff_of_true ((after hij hr).trans_le (Nat.le_add_right _ _)) (.inl hij)
  · simp
  · have later := after hij hs
    exact iff_of_false (by omega) (by omega)

/-- What `locate` finds, on a line that is long enough. -/
theorem locate_spec {fuel i n : Nat} (h : before size i + n < before size (i + fuel)) :
    before size (locate size fuel i n).1 + (locate size fuel i n).2 = before size i + n ∧
      (locate size fuel i n).2 < size (locate size fuel i n).1 ∧
      (locate size fuel i n).1 < i + fuel := by
  induction fuel generalizing i n with
  | zero => exact absurd h (by simp)
  | succ fuel ih =>
      unfold locate
      split
      · rename_i hn
        exact ⟨rfl, hn, by omega⟩
      · rename_i hn
        have next : before size (i + 1) = before size i + size i := rfl
        have shift : i + 1 + fuel = i + (fuel + 1) := by omega
        obtain ⟨hsum, hr, hi⟩ := @ih (i + 1) (n - size i) (by rw [shift]; omega)
        exact ⟨by omega, hr, by omega⟩

/-- What `locate` finds from the first stretch on. -/
theorem locate_first {fuel n : Nat} (h : n < before size fuel) :
    before size (locate size fuel 0 n).1 + (locate size fuel 0 n).2 = n ∧
      (locate size fuel 0 n).2 < size (locate size fuel 0 n).1 ∧
      (locate size fuel 0 n).1 < fuel := by
  have spec := @locate_spec size fuel 0 n (by simpa [before] using h)
  simpa [before] using spec

end Stretches

/-! ### Dates -/

def isLeap (year : Nat) : Bool := year % 4 == 0 && (year % 100 != 0 || year % 400 == 0)

def daysInMonth (year month : Nat) : Nat :=
  if month = 2 then if isLeap year then 29 else 28
  else if month ∈ [4, 6, 9, 11] then 30 else 31

def daysInYear (year : Nat) : Nat := if isLeap year then 366 else 365

/-- The days of a year before a month. -/
def daysBeforeMonth (year month : Nat) : Nat :=
  before (fun i => daysInMonth year (i + 1)) (month - 1)

/-- The days before a year, from year 1 on. -/
def daysBeforeYear (year : Nat) : Nat := before (fun i => daysInYear (i + 1)) (year - 1)

/-- A date of the years 1 to 9999. -/
structure Date where
  year : Nat
  month : Nat
  day : Nat
  year_pos : 1 ≤ year
  year_le : year ≤ 9999
  month_pos : 1 ≤ month
  month_le : month ≤ 12
  day_pos : 1 ≤ day
  day_le : day ≤ daysInMonth year month

/-- The number of days, of the years 1 to 9999. -/
def maxDays : Nat := 3652059

theorem before_months (year : Nat) :
    before (fun i => daysInMonth year (i + 1)) 12 = daysInYear year := by
  cases h : isLeap year <;> simp [before, daysInMonth, daysInYear, h]

namespace Date

variable (d e : Date)

/-- The place of the date in its year, from 0 on. -/
def dayOfYear : Nat := daysBeforeMonth d.year d.month + (d.day - 1)

/-- The days before the date. -/
def ordinal : Nat := daysBeforeYear d.year + d.dayOfYear

variable {d e}

theorem dayOfYear_lt (d : Date) : d.dayOfYear < daysInYear d.year := by
  have hd := d.day_pos
  have hm := d.month_pos
  have last : d.day - 1 < daysInMonth d.year (d.month - 1 + 1) := by
    rw [Nat.sub_add_cancel hm]
    exact Nat.lt_of_lt_of_le (by omega) d.day_le
  calc d.dayOfYear
      < before (fun i => daysInMonth d.year (i + 1)) (d.month - 1 + 1) :=
        Nat.add_lt_add_left last _
    _ ≤ before (fun i => daysInMonth d.year (i + 1)) 12 :=
        before_mono _ (by have := d.month_le; omega)
    _ = daysInYear d.year := before_months _

theorem dayOfYear_lt_iff (hy : d.year = e.year) :
    d.dayOfYear < e.dayOfYear ↔ d.month < e.month ∨ d.month = e.month ∧ d.day < e.day := by
  have dim (d : Date) : d.day - 1 < daysInMonth d.year (d.month - 1 + 1) := by
    have := d.day_pos
    rw [Nat.sub_add_cancel d.month_pos]
    exact Nat.lt_of_lt_of_le (by omega) d.day_le
  have hd := d.day_pos
  have he := e.day_pos
  have hdm := d.month_pos
  have hem := e.month_pos
  unfold dayOfYear daysBeforeMonth
  rw [← hy, @before_add_lt_iff (fun i => daysInMonth d.year (i + 1)) _ _ _ _ (dim d)
    (hy ▸ dim e)]
  omega

/-- **Earlier dates** have smaller fields, in order. -/
theorem ordinal_lt_iff : d.ordinal < e.ordinal ↔ d.year < e.year ∨ d.year = e.year ∧
    (d.month < e.month ∨ d.month = e.month ∧ d.day < e.day) := by
  have year (d : Date) : d.dayOfYear < daysInYear (d.year - 1 + 1) := by
    rw [Nat.sub_add_cancel d.year_pos]
    exact d.dayOfYear_lt
  have hd := d.year_pos
  have he := e.year_pos
  unfold ordinal daysBeforeYear
  rw [@before_add_lt_iff (fun i => daysInYear (i + 1)) _ _ _ _ (year d) (year e)]
  have same : d.year - 1 = e.year - 1 ↔ d.year = e.year := by omega
  have less : d.year - 1 < e.year - 1 ↔ d.year < e.year := by omega
  rw [same, less]
  exact or_congr_right (and_congr_right dayOfYear_lt_iff)

/-- The days before a year, in one formula. -/
theorem before_years (n : Nat) :
    before (fun i => daysInYear (i + 1)) n = n * 365 + n / 4 - n / 100 + n / 400 := by
  induction n with
  | zero => rfl
  | succ n ih =>
      rw [before, ih, daysInYear, isLeap]
      split
      · rename_i h
        simp only [Bool.and_eq_true, Bool.or_eq_true, beq_iff_eq, bne_iff_ne] at h
        omega
      · rename_i h
        simp only [Bool.and_eq_true, Bool.or_eq_true, beq_iff_eq, bne_iff_ne] at h
        omega

theorem ordinal_lt (d : Date) : d.ordinal < maxDays := by
  have year := d.dayOfYear_lt
  rw [← Nat.sub_add_cancel d.year_pos] at year
  calc d.ordinal < before (fun i => daysInYear (i + 1)) (d.year - 1 + 1) :=
        Nat.add_lt_add_left year _
    _ ≤ before (fun i => daysInYear (i + 1)) 9999 :=
        before_mono _ (by have := d.year_le; have := d.year_pos; omega)
    _ = maxDays := before_years 9999

/-- The year of a day, from 0 on, and the day's place in it. -/
def yearOf (n : Nat) : Nat × Nat := locate (fun i => daysInYear (i + 1)) 9999 0 n

/-- The month of a year that a place is in, from 0 on, and the place in the month. -/
def monthOf (year n : Nat) : Nat × Nat := locate (fun i => daysInMonth year (i + 1)) 12 0 n

theorem yearOf_spec {n : Nat} (h : n < maxDays) :
    before (fun i => daysInYear (i + 1)) (yearOf n).1 + (yearOf n).2 = n ∧
      (yearOf n).2 < daysInYear ((yearOf n).1 + 1) ∧ (yearOf n).1 < 9999 :=
  locate_first (by rw [before_years]; exact h)

theorem monthOf_spec {year n : Nat} (h : n < daysInYear year) :
    before (fun i => daysInMonth year (i + 1)) (monthOf year n).1 + (monthOf year n).2 = n ∧
      (monthOf year n).2 < daysInMonth year ((monthOf year n).1 + 1) ∧
      (monthOf year n).1 < 12 :=
  locate_first (by rw [before_months]; exact h)

/-- The date of a number of days. -/
def ofOrdinal (n : Nat) (h : n < maxDays) : Date :=
  have hy := yearOf_spec h
  have hm := monthOf_spec hy.2.1
  { year := (yearOf n).1 + 1
    month := (monthOf ((yearOf n).1 + 1) (yearOf n).2).1 + 1
    day := (monthOf ((yearOf n).1 + 1) (yearOf n).2).2 + 1
    year_pos := Nat.le_add_left 1 _
    year_le := hy.2.2
    month_pos := Nat.le_add_left 1 _
    month_le := hm.2.2
    day_pos := Nat.le_add_left 1 _
    day_le := hm.2.1 }

theorem ordinal_ofOrdinal {n : Nat} (h : n < maxDays) : (ofOrdinal n h).ordinal = n := by
  have hy := yearOf_spec h
  have hm := monthOf_spec hy.2.1
  unfold ordinal dayOfYear daysBeforeYear daysBeforeMonth ofOrdinal
  simp only [Nat.add_sub_cancel]
  rw [hm.1, hy.1]

end Date

/-! ### Date-times -/

/-- A naive date-time. -/
structure WallTime where
  date : Date
  hour : Nat
  minute : Nat
  second : Nat
  microsecond : Nat
  hour_lt : hour < 24
  minute_lt : minute < 60
  second_lt : second < 60
  microsecond_lt : microsecond < 1000000

namespace WallTime

/-- Microseconds in a day. -/
def perDay : Nat := 86400000000

/-- The microseconds since midnight. -/
def clock (w : WallTime) : Nat :=
  ((w.hour * 60 + w.minute) * 60 + w.second) * 1000000 + w.microsecond

/-- The microseconds since the first of January of year 1. -/
def micros (w : WallTime) : Nat := w.date.ordinal * perDay + w.clock

/-- One field after another decides. -/
def Earlier (v w : WallTime) : Prop :=
  v.date.year < w.date.year ∨ v.date.year = w.date.year ∧
    (v.date.month < w.date.month ∨ v.date.month = w.date.month ∧
    (v.date.day < w.date.day ∨ v.date.day = w.date.day ∧
    (v.hour < w.hour ∨ v.hour = w.hour ∧
    (v.minute < w.minute ∨ v.minute = w.minute ∧
    (v.second < w.second ∨ v.second = w.second ∧ v.microsecond < w.microsecond)))))

variable {v w : WallTime}

theorem clock_lt (w : WallTime) : w.clock < perDay := by
  have := w.hour_lt
  have := w.minute_lt
  have := w.second_lt
  have := w.microsecond_lt
  unfold clock perDay
  omega

theorem clock_lt_iff : v.clock < w.clock ↔ v.hour < w.hour ∨ v.hour = w.hour ∧
    (v.minute < w.minute ∨ v.minute = w.minute ∧
    (v.second < w.second ∨ v.second = w.second ∧ v.microsecond < w.microsecond)) := by
  have := v.minute_lt
  have := v.second_lt
  have := v.microsecond_lt
  have := w.minute_lt
  have := w.second_lt
  have := w.microsecond_lt
  unfold clock
  omega

/-- **Earlier** is to have fewer microseconds. -/
theorem micros_lt_iff : v.micros < w.micros ↔ v.Earlier w := by
  have hv := v.clock_lt
  have hw := w.clock_lt
  have days : v.micros < w.micros ↔ v.date.ordinal < w.date.ordinal ∨
      v.date.ordinal = w.date.ordinal ∧ v.clock < w.clock := by
    unfold micros perDay at *
    omega
  have same : v.date.ordinal = w.date.ordinal ↔ v.date.year = w.date.year ∧
      v.date.month = w.date.month ∧ v.date.day = w.date.day := by
    have less := @Date.ordinal_lt_iff v.date w.date
    have more := @Date.ordinal_lt_iff w.date v.date
    omega
  rw [days, Date.ordinal_lt_iff, same, clock_lt_iff]
  unfold Earlier
  omega

theorem eq_of_not_earlier (hvw : ¬v.Earlier w) (hwv : ¬w.Earlier v) : v = w := by
  obtain ⟨⟨y, m, d, _, _, _, _, _, _⟩, h, mi, s, us, _, _, _, _⟩ := v
  obtain ⟨⟨y', m', d', _, _, _, _, _, _⟩, h', mi', s', us', _, _, _, _⟩ := w
  simp only [Earlier] at hvw hwv
  obtain ⟨rfl, rfl, rfl, rfl, rfl, rfl, rfl⟩ : y = y' ∧ m = m' ∧ d = d' ∧ h = h' ∧ mi = mi' ∧
      s = s' ∧ us = us' := by omega
  rfl

theorem micros_inj : v.micros = w.micros ↔ v = w := by
  refine ⟨fun h => eq_of_not_earlier ?_ ?_, fun h => h ▸ rfl⟩
  · exact mt micros_lt_iff.mpr h.not_lt
  · exact mt micros_lt_iff.mpr h.symm.not_lt

/-- The number of microseconds of the years 1 to 9999. -/
def span : Nat := maxDays * perDay

theorem micros_lt (w : WallTime) : w.micros < span := by
  calc w.micros < (w.date.ordinal + 1) * perDay := by
        rw [Nat.succ_mul]
        exact Nat.add_lt_add_left w.clock_lt _
    _ ≤ span := Nat.mul_le_mul_right _ w.date.ordinal_lt

/-- The date-time of a number of microseconds in range. -/
def ofMicros (n : Nat) (h : n < span) : WallTime where
  date := .ofOrdinal (n / perDay) (Nat.div_lt_of_lt_mul (by rw [Nat.mul_comm]; exact h))
  hour := n % perDay / 3600000000
  minute := n % perDay / 60000000 % 60
  second := n % perDay / 1000000 % 60
  microsecond := n % 1000000
  hour_lt := by unfold perDay; omega
  minute_lt := Nat.mod_lt _ (by decide)
  second_lt := Nat.mod_lt _ (by decide)
  microsecond_lt := Nat.mod_lt _ (by decide)

theorem micros_ofMicros {n : Nat} (h : n < span) : (ofMicros n h).micros = n := by
  unfold micros clock ofMicros
  rw [Date.ordinal_ofOrdinal]
  dsimp only
  unfold perDay
  omega

/-- The date-time of a number of microseconds, or nothing where it is out of range. -/
def ofMicros? (n : Int) : Option WallTime :=
  if h : 0 ≤ n ∧ n < span then some (ofMicros n.toNat (by omega)) else none

theorem ofMicros?_eq_some {n : Int} : ofMicros? n = some w ↔ (w.micros : Int) = n := by
  unfold ofMicros?
  split
  · rename_i h
    rw [Option.some.injEq, ← micros_inj, micros_ofMicros]
    omega
  · rename_i h
    have range := w.micros_lt
    exact iff_of_false (fun hn => nomatch hn) fun he => h (by omega)

theorem exists_ofMicros? {n : Int} : (∃ w, ofMicros? n = some w) ↔ 0 ≤ n ∧ n < span := by
  unfold ofMicros?
  split
  · rename_i h
    exact iff_of_true ⟨_, rfl⟩ h
  · rename_i h
    exact iff_of_false (fun ⟨_, hn⟩ => nomatch hn) h

end WallTime

end Support

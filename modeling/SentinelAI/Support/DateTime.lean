import SentinelAI.Support.Calendar

/-!
# Support — DateTime

Date-times that may be aware of their offset from UTC, as Python's `datetime`, the instant that one
denotes, and the text of fixed width that a naive one is stored as.

* `WallTime.text_lt_iff`: the texts compare as the date-times do.
* `DateTime.wallAt_eq_some_iff`, `exists_wallAt`: a clock of UTC shows the instant, and nothing
  where the instant is out of range.
-/

namespace Support

/-! ### Numbers of fixed width -/

/-- The last `k` digits of a number. -/
def digits : Nat → Nat → Str
  | 0, _ => []
  | k + 1, n => digits k (n / 10) ++ [Nat.digitChar (n % 10)]

@[simp] theorem length_digits (k n : Nat) : (digits k n).length = k := by
  induction k generalizing n with
  | zero => rfl
  | succ k ih => rw [digits, List.length_append, ih, List.length_singleton]

/-- Texts that begin with parts of one length compare by these parts first. -/
theorem append_lt_append_iff {a b c d : Str} (h : a.length = b.length) :
    a ++ c < b ++ d ↔ a < b ∨ a = b ∧ c < d := by
  induction a generalizing b with
  | nil =>
      obtain rfl := List.length_eq_zero_iff.mp h.symm
      simp
  | cons x a ih =>
      cases b with
      | nil => cases h
      | cons y b =>
          have rest := @ih b (Nat.succ.inj h)
          simp only [List.cons_append, List.cons_lt_cons_iff, rest, List.cons.injEq]
          constructor
          · rintro (hx | ⟨hx, hl | ⟨hl, hcd⟩⟩)
            · exact .inl (.inl hx)
            · exact .inl (.inr ⟨hx, hl⟩)
            · exact .inr ⟨⟨hx, hl⟩, hcd⟩
          · rintro ((hx | ⟨hx, hl⟩) | ⟨⟨hx, hl⟩, hcd⟩)
            · exact .inl hx
            · exact .inr ⟨hx, .inl hl⟩
            · exact .inr ⟨hx, .inr ⟨hl, hcd⟩⟩

theorem digitChar_lt_iff {m n : Nat} (hm : m < 10) (hn : n < 10) :
    Nat.digitChar m < Nat.digitChar n ↔ m < n := by
  have all : ∀ m < 10, ∀ n < 10, Nat.digitChar m < Nat.digitChar n ↔ m < n := by decide
  exact all m hm n hn

/-- **Numbers of one width** compare as their digits do. -/
theorem digits_lt_iff {k m n : Nat} (hm : m < 10 ^ k) (hn : n < 10 ^ k) :
    digits k m < digits k n ↔ m < n := by
  induction k generalizing m n with
  | zero =>
      have : m = n := by omega
      simp [digits, this]
  | succ k ih =>
      have bound : ∀ {x}, x < 10 ^ (k + 1) → x / 10 < 10 ^ k := fun h =>
        Nat.div_lt_of_lt_mul (by rwa [← Nat.pow_succ'])
      have last : ∀ x : Nat, x % 10 < 10 := fun x => Nat.mod_lt x (by decide)
      have less := ih (bound hm) (bound hn)
      have more := ih (bound hn) (bound hm)
      have same : digits k (m / 10) = digits k (n / 10) ↔ m / 10 = n / 10 := by
        refine ⟨fun h => ?_, fun h => by rw [h]⟩
        rw [h] at less more
        have hlt := mt less.mpr (lt_irrefl _)
        have hgt := mt more.mpr (lt_irrefl _)
        omega
      rw [digits, digits, append_lt_append_iff (by simp), less, same, List.cons_lt_cons_iff,
        digitChar_lt_iff (last m) (last n)]
      simp only [List.not_lt_nil, and_false, or_false]
      omega

/-- A number of fixed width, with a separator after it, decides first. -/
theorem digits_cons_lt_iff {k m n : Nat} (hm : m < 10 ^ k) (hn : n < 10 ^ k) (c : Char)
    (s t : Str) : digits k m ++ c :: s < digits k n ++ c :: t ↔ m < n ∨ m = n ∧ s < t := by
  have same : digits k m = digits k n ↔ m = n := by
    refine ⟨fun h => ?_, fun h => by rw [h]⟩
    have hlt := mt (digits_lt_iff hm hn).mpr (h ▸ lt_irrefl _)
    have hgt := mt (digits_lt_iff hn hm).mpr (h ▸ lt_irrefl _)
    omega
  rw [append_lt_append_iff (by simp), digits_lt_iff hm hn, same, List.cons_lt_cons_iff]
  simp

namespace WallTime

/-- `YYYY-MM-DD HH:MM:SS.ffffff` -/
def text (w : WallTime) : Str :=
  digits 4 w.date.year ++ '-' :: (digits 2 w.date.month ++ '-' :: (digits 2 w.date.day ++ ' ' ::
    (digits 2 w.hour ++ ':' :: (digits 2 w.minute ++ ':' :: (digits 2 w.second ++ '.' ::
      digits 6 w.microsecond)))))

variable {v w : WallTime}

/-- **The texts of date-times** compare as they do. -/
theorem text_lt_iff : v.text < w.text ↔ v.micros < w.micros := by
  have day_le (d : Date) : d.day ≤ 31 := by
    refine d.day_le.trans ?_
    unfold daysInMonth
    split
    · split <;> decide
    · split <;> decide
  have year (d : Date) : d.year < 10 ^ 4 := Nat.lt_succ_of_le d.year_le
  have month (d : Date) : d.month < 10 ^ 2 := d.month_le.trans_lt (by decide)
  have day (d : Date) : d.day < 10 ^ 2 := (day_le d).trans_lt (by decide)
  have hour (w : WallTime) : w.hour < 10 ^ 2 := w.hour_lt.trans (by decide)
  have minute (w : WallTime) : w.minute < 10 ^ 2 := w.minute_lt.trans (by decide)
  have second (w : WallTime) : w.second < 10 ^ 2 := w.second_lt.trans (by decide)
  unfold text
  rw [micros_lt_iff, Earlier, digits_cons_lt_iff (year _) (year _),
    digits_cons_lt_iff (month _) (month _), digits_cons_lt_iff (day _) (day _),
    digits_cons_lt_iff (hour _) (hour _), digits_cons_lt_iff (minute _) (minute _),
    digits_cons_lt_iff (second _) (second _), digits_lt_iff v.microsecond_lt w.microsecond_lt]

end WallTime

/-! ### Aware and naive -/

/-- A date-time, with its offset from UTC in microseconds where it is aware. -/
structure DateTime where
  wall : WallTime
  offset : Option Int
  offset_lt : ∀ o ∈ offset, -(WallTime.perDay : Int) < o ∧ o < WallTime.perDay

namespace DateTime

/-- The microseconds before 1970. -/
def epoch : Int := 62135596800000000

/-- The instant that a date-time denotes; a naive one is read as UTC. -/
def instant (d : DateTime) : Time := d.wall.micros - d.offset.getD 0 - epoch

/-- `datetime.replace(tzinfo=None)` -/
def naive (w : WallTime) : DateTime := ⟨w, none, fun _ h => nomatch h⟩

/-- `datetime.replace(tzinfo=timezone.utc)` -/
def utc (w : WallTime) : DateTime :=
  ⟨w, some 0, fun o h => by obtain rfl := Option.mem_some.mp h; decide⟩

/-- An instant of the years 1 to 9999. -/
def InRange (t : Time) : Prop := 0 ≤ t + epoch ∧ t + epoch < WallTime.span

/-- What a clock that shows UTC shows at an instant, or nothing where it is out of range. -/
def wallAt (t : Time) : Option WallTime := WallTime.ofMicros? (t + epoch)

/-- `datetime.astimezone(timezone.utc)` of an aware date-time, or nothing where it overflows. -/
def toUtc (d : DateTime) : Option DateTime := (wallAt d.instant).map utc

theorem wallAt_eq_some_iff {t : Time} {w : WallTime} :
    wallAt t = some w ↔ (naive w).instant = t := by
  rw [wallAt, WallTime.ofMicros?_eq_some, instant, naive]
  simp only [Option.getD_none, sub_zero]
  exact sub_eq_iff_eq_add.symm

theorem exists_wallAt {t : Time} : (∃ w, wallAt t = some w) ↔ InRange t := by
  rw [wallAt, WallTime.exists_ofMicros?, InRange]

end DateTime

end Support

import Mathlib.Algebra.Order.Ring.Nat
import Mathlib.Data.List.Nodup
import Mathlib.Tactic.Linarith

/-!
# Support — Tiling

An interval of `n` places cut into blocks of `b`, from 0 on, as long as a whole block fits.  A place
is in one block at most, and in none exactly when it comes after the last whole block.

* `blockStart_iff`: the one block that a place can be in.
* `count_blocks`: how many blocks it is in.
* `covered_eq_iff`: every place is covered exactly when `b` divides `n`.
* `countP_pairs`: tilings of the two sides of a grid.
-/

namespace Support

/-- `range(0, stop, step)` -/
def rangeStep (stop : Int) (step : Nat) : List Nat :=
  (List.range stop.toNat).filter (step ∣ ·)

/-- Where the blocks of `b` among `n` places start. -/
def blockStarts (n b : Nat) : List Nat := rangeStep (n - b + 1) b

/-- The number of places in whole blocks. -/
def covered (n b : Nat) : Nat := n / b * b

variable {n b s i : Nat}

theorem mem_rangeStep {stop : Int} {step : Nat} :
    s ∈ rangeStep stop step ↔ (s : Int) < stop ∧ step ∣ s := by
  simp [rangeStep, Int.lt_toNat]

theorem nodup_rangeStep (stop : Int) (step : Nat) : (rangeStep stop step).Nodup :=
  List.nodup_range.filter _

/-- A block starts at a multiple of its size, and ends in the interval. -/
theorem mem_blockStarts : s ∈ blockStarts n b ↔ b ∣ s ∧ s + b ≤ n := by
  rw [blockStarts, mem_rangeStep, and_comm]
  exact and_congr_right fun _ => by omega

/-- **The block of a place**: it starts at the last multiple before it, and is there as long as the
place is covered. -/
theorem blockStart_iff (hb : 0 < b) :
    s ∈ blockStarts n b ∧ s ≤ i ∧ i < s + b ↔ s = i / b * b ∧ i < covered n b := by
  have start : i / b * b ≤ i := Nat.div_mul_le_self i b
  have stop : i < i / b * b + b := Nat.lt_div_mul_add hb
  rw [mem_blockStarts]
  constructor
  · rintro ⟨⟨⟨k, rfl⟩, hfit⟩, hle, hlt⟩
    have hk : i / b = k := Nat.div_eq_of_lt_le (by linarith) (by linarith)
    refine ⟨by rw [hk, Nat.mul_comm], ?_⟩
    have hn : k + 1 ≤ n / b := (Nat.le_div_iff_mul_le hb).mpr (by linarith)
    calc i < (k + 1) * b := by linarith
      _ ≤ n / b * b := Nat.mul_le_mul_right b hn
  · rintro ⟨rfl, hi⟩
    refine ⟨⟨Nat.dvd_mul_left _ _, ?_⟩, start, stop⟩
    have hn : i / b < n / b := (Nat.div_lt_iff_lt_mul hb).mpr hi
    calc i / b * b + b
        = (i / b + 1) * b := (Nat.succ_mul _ _).symm
      _ ≤ n / b * b := Nat.mul_le_mul_right b hn
      _ ≤ n := Nat.div_mul_le_self n b

/-- A covered place is in one block, and another in none. -/
theorem count_blocks (hb : 0 < b) : ((blockStarts n b).countP fun s => s ≤ i ∧ i < s + b) =
    if i < covered n b then 1 else 0 := by
  have block (s : Nat) (hs : s ∈ blockStarts n b) :
      (decide (s ≤ i ∧ i < s + b) = true) ↔
        (decide (s = i / b * b ∧ i < covered n b) = true) := by
    rw [decide_eq_true_iff, decide_eq_true_iff, ← blockStart_iff hb]
    exact (and_iff_right hs).symm
  rw [List.countP_congr block]
  by_cases hi : i < covered n b
  · have mem : i / b * b ∈ blockStarts n b := ((blockStart_iff hb).mpr ⟨rfl, hi⟩).1
    simp only [hi, and_true, if_true]
    exact List.count_eq_one_of_mem (nodup_rangeStep _ _) mem
  · simp [hi]

theorem covered_eq_iff : covered n b = n ↔ b ∣ n :=
  ⟨fun h => ⟨n / b, by rw [Nat.mul_comm]; exact h.symm⟩, fun h => Nat.div_mul_cancel h⟩

theorem covered_le : covered n b ≤ n := Nat.div_mul_le_self n b

/-- No block fits exactly where there are fewer places than a block has. -/
theorem blockStarts_eq_nil_iff : blockStarts n b = [] ↔ n < b := by
  rw [List.eq_nil_iff_forall_not_mem]
  simp only [mem_blockStarts]
  constructor
  · intro h
    by_contra hn
    exact h 0 ⟨Nat.dvd_zero b, by omega⟩
  · rintro h s ⟨-, hs⟩
    omega

theorem countP_pairs {α β : Type*} (p : α → Bool) (q : β → Bool) (l : List α) (m : List β) :
    ((l.flatMap fun a => m.map fun b => (a, b)).countP fun ab => p ab.1 && q ab.2) =
      l.countP p * m.countP q := by
  induction l with
  | nil => simp
  | cons a l ih =>
      have row : ((m.map fun b => (a, b)).countP fun ab => p ab.1 && q ab.2) =
          if p a then m.countP q else 0 := by
        rw [List.countP_map]
        cases hp : p a <;> simp [Function.comp_def, hp]
      rw [List.flatMap_cons, List.countP_append, ih, row, List.countP_cons, Nat.add_mul]
      split <;> simp [Nat.add_comm]

end Support

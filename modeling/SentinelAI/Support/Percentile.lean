import Mathlib.Data.List.Sort

/-!
# Support — Percentile

The entry at a rank of a list put in order, as `sorted(l)[i]` gives it.

* `lt_countP_atRank`, `le_countP_atRank`: how much of the list is at most, and at least, the entry.
-/

namespace Support

variable {α : Type*} [LinearOrder α]

/-- `sorted(l)[i]` -/
def atRank (l : List α) (i : ℕ) : Option α := (l.insertionSort (· ≤ ·))[i]?

theorem exists_atRank {l : List α} {i : ℕ} (h : i < l.length) : ∃ v ∈ l, atRank l i = some v := by
  have hi : i < (l.insertionSort (· ≤ ·)).length := by rwa [List.length_insertionSort]
  exact ⟨_, (List.mem_insertionSort _).mp (List.getElem_mem hi), List.getElem?_eq_getElem hi⟩

section Count

variable {l : List α} {i : ℕ} {v : α}

/-- The entries up to the rank are at most the entry there. -/
theorem lt_countP_atRank (h : atRank l i = some v) : i < l.countP (· ≤ v) := by
  obtain ⟨hi, rfl⟩ := List.getElem?_eq_some_iff.mp h
  rw [← (List.perm_insertionSort (· ≤ ·) l).countP_eq]
  have sorted : (l.insertionSort (· ≤ ·)).Pairwise (· ≤ ·) := List.pairwise_insertionSort _ l
  generalize l.insertionSort (· ≤ ·) = s at *
  have upTo : (s.take (i + 1)).countP (· ≤ s[i]) = (s.take (i + 1)).length := by
    refine List.countP_eq_length.mpr fun x hx => ?_
    obtain ⟨j, hj, rfl⟩ := List.mem_take_iff_getElem.mp hx
    rw [decide_eq_true_iff]
    rcases Nat.lt_or_ge j i with h | h
    · exact List.pairwise_iff_getElem.mp sorted j i _ hi h
    · have : j = i := by omega
      subst this
      exact le_rfl
  have part : (s.take (i + 1)).countP (· ≤ s[i]) ≤ s.countP (· ≤ s[i]) :=
    (List.take_sublist _ _).countP_le
  rw [upTo, List.length_take] at part
  omega

/-- The entries from the rank on are at least the entry there. -/
theorem le_countP_atRank (h : atRank l i = some v) : l.length - i ≤ l.countP (v ≤ ·) := by
  obtain ⟨hi, rfl⟩ := List.getElem?_eq_some_iff.mp h
  rw [← (List.perm_insertionSort (· ≤ ·) l).countP_eq, ← List.length_insertionSort (· ≤ ·) l]
  have sorted : (l.insertionSort (· ≤ ·)).Pairwise (· ≤ ·) := List.pairwise_insertionSort _ l
  generalize l.insertionSort (· ≤ ·) = s at *
  have onwards : (s.drop i).countP (s[i] ≤ ·) = (s.drop i).length := by
    refine List.countP_eq_length.mpr fun x hx => ?_
    obtain ⟨j, hj, rfl⟩ := List.mem_drop_iff_getElem.mp hx
    rw [decide_eq_true_iff]
    rcases Nat.eq_zero_or_pos j with h | h
    · subst h
      simp
    · exact List.pairwise_iff_getElem.mp sorted i (i + j) hi _ (by omega)
  have part : (s.drop i).countP (s[i] ≤ ·) ≤ s.countP (s[i] ≤ ·) :=
    (List.drop_sublist _ _).countP_le
  rwa [onwards, List.length_drop] at part

end Count

end Support

import SentinelAI.Support.Pairs
import Mathlib.Data.Finset.Card
import Mathlib.Data.Finset.Lattice.Basic
import Mathlib.Data.List.Pairwise

/-!
# Support — Jaccard

The Jaccard index of two finite sets, which is 1 on two empty ones, and its mean over the pairs of a
list of sets.

* `jaccardIndex_eq_one_iff`, `jaccardIndex_eq_zero_iff`: its extremes.
* `similarity_perm`, `similarity_eq_one_iff`, `similarity_eq_zero_iff`: those of the mean.
-/

namespace Support

variable {α : Type*} [DecidableEq α] {A B : Finset α}

/-- The Jaccard index. -/
def jaccardIndex (A B : Finset α) : ℚ :=
  if A ∪ B = ∅ then 1 else ((A ∩ B).card : ℚ) / (A ∪ B).card

theorem jaccardIndex_comm (A B : Finset α) : jaccardIndex A B = jaccardIndex B A := by
  rw [jaccardIndex, jaccardIndex, Finset.union_comm, Finset.inter_comm]

theorem card_inter_le_card_union (A B : Finset α) : (A ∩ B).card ≤ (A ∪ B).card :=
  Finset.card_le_card (Finset.inter_subset_left.trans Finset.subset_union_left)

theorem jaccardIndex_nonneg (A B : Finset α) : 0 ≤ jaccardIndex A B := by
  unfold jaccardIndex
  split
  · exact zero_le_one
  · exact div_nonneg (Nat.cast_nonneg _) (Nat.cast_nonneg _)

theorem jaccardIndex_le_one (A B : Finset α) : jaccardIndex A B ≤ 1 := by
  unfold jaccardIndex
  split
  · exact le_rfl
  · exact div_le_one_of_le₀ (by exact_mod_cast card_inter_le_card_union A B) (Nat.cast_nonneg _)

/-- The index is 1 exactly on equal sets. -/
theorem jaccardIndex_eq_one_iff : jaccardIndex A B = 1 ↔ A = B := by
  unfold jaccardIndex
  split
  · rename_i h
    obtain ⟨rfl, rfl⟩ := Finset.union_eq_empty.mp h
    exact iff_of_true rfl rfl
  · rename_i h
    have pos : ((A ∪ B).card : ℚ) ≠ 0 := by simpa [Finset.union_eq_empty] using h
    rw [div_eq_one_iff_eq pos, Nat.cast_inj]
    constructor
    · intro hc
      have same : A ∩ B = A ∪ B := Finset.eq_of_subset_of_card_le
        (Finset.inter_subset_left.trans Finset.subset_union_left) hc.ge
      exact inf_eq_sup.mp same
    · rintro rfl
      rw [Finset.inter_self, Finset.union_self]

/-- The index is 0 exactly on disjoint sets that are not both empty. -/
theorem jaccardIndex_eq_zero_iff : jaccardIndex A B = 0 ↔ Disjoint A B ∧ ¬(A = ∅ ∧ B = ∅) := by
  unfold jaccardIndex
  rw [← Finset.union_eq_empty]
  split
  · rename_i h
    exact iff_of_false one_ne_zero fun hn => hn.2 h
  · rename_i h
    have pos : ((A ∪ B).card : ℚ) ≠ 0 := by simpa [Finset.union_eq_empty] using h
    rw [div_eq_zero_iff, or_iff_left pos, and_iff_left h, Nat.cast_eq_zero, Finset.card_eq_zero,
      Finset.disjoint_iff_inter_eq_empty]

/-! ### The mean over the pairs -/

/-- The mean index of the pairs of a list of sets. -/
def similarity (l : List (Finset α)) : ℚ :=
  mean ((pairs l).map fun p => jaccardIndex p.1 p.2)

variable {l l' : List (Finset α)}

theorem similarity_perm (h : l.Perm l') : similarity l = similarity l' := by
  have sums := sumPairs_perm jaccardIndex jaccardIndex_comm h
  unfold sumPairs at sums
  rw [similarity, similarity, mean, mean, sums, List.length_map, List.length_map,
    length_pairs_perm h]

theorem similarity_nonneg (l : List (Finset α)) : 0 ≤ similarity l :=
  mean_nonneg (List.forall_mem_map.mpr fun p _ => jaccardIndex_nonneg p.1 p.2)

theorem similarity_le_one (l : List (Finset α)) : similarity l ≤ 1 :=
  mean_le_one (List.forall_mem_map.mpr fun p _ => jaccardIndex_le_one p.1 p.2)

/-- **The sets are as similar as can be** exactly when they are all the same. -/
theorem similarity_eq_one_iff (hl : 2 ≤ l.length) :
    similarity l = 1 ↔ ∀ A ∈ l, ∀ B ∈ l, A = B := by
  have hn : (pairs l).map (fun p => jaccardIndex p.1 p.2) ≠ [] := by
    simpa using pairs_ne_nil hl
  rw [similarity, mean_eq_one_iff hn
    (List.forall_mem_map.mpr fun p _ => jaccardIndex_le_one p.1 p.2), List.forall_mem_map]
  simp only [jaccardIndex_eq_one_iff]
  rw [@forall_mem_pairs _ (fun A B => A = B)]
  exact ⟨fun h A hA B hB => h.forall_of_forall_of_flip (fun _ _ => rfl)
    (h.imp fun he => he.symm) hA hB, List.pairwise_of_forall_mem_list⟩

/-- Pairwise there are no two with `p` exactly when there is at most one. -/
theorem pairwise_not_and_iff {β : Type*} (p : β → Prop) [DecidablePred p] {l : List β} :
    l.Pairwise (fun a b => ¬(p a ∧ p b)) ↔ l.countP p ≤ 1 := by
  induction l with
  | nil => simp
  | cons a l ih =>
      rw [List.pairwise_cons, ih, List.countP_cons]
      by_cases hp : p a
      · have none : (∀ b ∈ l, ¬(p a ∧ p b)) ↔ l.countP p = 0 := by
          simp [List.countP_eq_zero, hp]
        rw [none]
        simp only [hp, decide_true, if_true]
        omega
      · simp [hp]

/-- **The sets are as different as can be** exactly when they are disjoint and at most one is
empty. -/
theorem similarity_eq_zero_iff (hl : 2 ≤ l.length) :
    similarity l = 0 ↔ l.Pairwise Disjoint ∧ l.countP (· = ∅) ≤ 1 := by
  have hn : (pairs l).map (fun p => jaccardIndex p.1 p.2) ≠ [] := by
    simpa using pairs_ne_nil hl
  rw [similarity, mean_eq_zero_iff hn
    (List.forall_mem_map.mpr fun p _ => jaccardIndex_nonneg p.1 p.2), List.forall_mem_map]
  simp only [jaccardIndex_eq_zero_iff]
  rw [@forall_mem_pairs _ (fun A B => Disjoint A B ∧ ¬(A = ∅ ∧ B = ∅)), List.pairwise_and_iff,
    pairwise_not_and_iff fun A : Finset α => A = ∅]

end Support

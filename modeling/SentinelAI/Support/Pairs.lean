import Mathlib.Algebra.Order.BigOperators.Group.List
import Mathlib.Algebra.Order.Field.Rat
import Mathlib.Data.List.Perm.Basic
import Mathlib.Tactic.Abel
import Mathlib.Tactic.Linarith
import Mathlib.Tactic.Ring

/-!
# Support — Pairs

The pairs of two entries of a list, and the mean of a symmetric function over them.

* `forall_mem_pairs`: what holds of every pair is what holds pairwise.
* `sum_pairs_perm`: a sum of a symmetric function over the pairs does not depend on the order.
* `mean_eq_one_iff`, `mean_eq_zero_iff`: the extremes of a mean of numbers between 0 and 1.
-/

namespace Support

variable {α : Type*}

/-- `combinations(l, 2)` -/
def pairs : List α → List (α × α)
  | [] => []
  | a :: l => l.map (fun b => (a, b)) ++ pairs l

theorem forall_mem_pairs {R : α → α → Prop} {l : List α} :
    (∀ p ∈ pairs l, R p.1 p.2) ↔ l.Pairwise R := by
  induction l with
  | nil => simp [pairs]
  | cons a l ih => rw [pairs, List.forall_mem_append, ih, List.pairwise_cons, List.forall_mem_map]

theorem pairs_map {γ : Type*} (f : α → γ) (l : List α) :
    pairs (l.map f) = (pairs l).map (Prod.map f f) := by
  induction l with
  | nil => rfl
  | cons a l ih => simp [pairs, ih, Function.comp_def]

theorem pairs_ne_nil {l : List α} (h : 2 ≤ l.length) : pairs l ≠ [] := by
  match l, h with
  | _ :: _ :: _, _ => simp [pairs]

section Sum
variable {β : Type*} [AddCommMonoid β] (f : α → α → β)

/-- The sum of `f` over the pairs of a list. -/
def sumPairs (l : List α) : β := ((pairs l).map fun p => f p.1 p.2).sum

theorem sumPairs_cons (a : α) (l : List α) :
    sumPairs f (a :: l) = (l.map (f a)).sum + sumPairs f l := by
  simp [sumPairs, pairs, Function.comp_def]

/-- **The order does not matter** to a sum of a symmetric function. -/
theorem sumPairs_perm (hf : ∀ a b, f a b = f b a) {l l' : List α} (h : l.Perm l') :
    sumPairs f l = sumPairs f l' := by
  induction h with
  | nil => rfl
  | @cons a l l' hl ih => rw [sumPairs_cons, sumPairs_cons, ih, (hl.map (f a)).sum_eq]
  | swap a b l =>
      simp only [sumPairs_cons, List.map_cons, List.sum_cons, hf b a]
      abel
  | trans _ _ ih ih' => exact ih.trans ih'

end Sum

theorem length_pairs_perm {l l' : List α} (h : l.Perm l') :
    (pairs l).length = (pairs l').length := by
  have ones := sumPairs_perm (fun _ _ : α => 1) (fun _ _ => rfl) h
  simpa [sumPairs] using ones

/-! ### Means of numbers between 0 and 1 -/

/-- The arithmetic mean. -/
def mean (l : List ℚ) : ℚ := l.sum / l.length

variable {l : List ℚ}

theorem sum_le_length (h : ∀ x ∈ l, x ≤ 1) : l.sum ≤ l.length := by
  have bound := List.sum_le_card_nsmul l 1 h
  simpa using bound

theorem mean_nonneg (h : ∀ x ∈ l, 0 ≤ x) : 0 ≤ mean l :=
  div_nonneg (List.sum_nonneg h) (Nat.cast_nonneg _)

theorem mean_le_one (h : ∀ x ∈ l, x ≤ 1) : mean l ≤ 1 :=
  div_le_one_of_le₀ (sum_le_length h) (Nat.cast_nonneg _)

theorem sum_eq_zero_iff (h : ∀ x ∈ l, 0 ≤ x) : l.sum = 0 ↔ ∀ x ∈ l, x = 0 := by
  induction l with
  | nil => simp
  | cons x l ih =>
      obtain ⟨hx, hl⟩ := List.forall_mem_cons.mp h
      rw [List.sum_cons, add_eq_zero_iff_of_nonneg hx (List.sum_nonneg hl), ih hl,
        List.forall_mem_cons]

theorem mean_eq_zero_iff (hn : l ≠ []) (h : ∀ x ∈ l, 0 ≤ x) : mean l = 0 ↔ ∀ x ∈ l, x = 0 := by
  have hlen : (l.length : ℚ) ≠ 0 := by simpa using hn
  rw [mean, div_eq_zero_iff, or_iff_left hlen, sum_eq_zero_iff h]

/-- The mean is 1 exactly when what is missing to 1 is 0 everywhere. -/
theorem mean_eq_one_iff (hn : l ≠ []) (h : ∀ x ∈ l, x ≤ 1) : mean l = 1 ↔ ∀ x ∈ l, x = 1 := by
  have hlen : (l.length : ℚ) ≠ 0 := by simpa using hn
  have missing : (l.map (1 - ·)).sum = l.length - l.sum := by
    clear hn h hlen
    induction l with
    | nil => simp
    | cons x l ih =>
        rw [List.map_cons, List.sum_cons, ih, List.sum_cons, List.length_cons]
        push_cast
        ring
  have rest : ∀ x ∈ l.map (1 - ·), 0 ≤ x :=
    List.forall_mem_map.mpr fun x hx => sub_nonneg.mpr (h x hx)
  rw [mean, div_eq_one_iff_eq hlen, eq_comm, ← sub_eq_zero, ← missing, sum_eq_zero_iff rest,
    List.forall_mem_map]
  exact forall₂_congr fun x _ => by rw [sub_eq_zero, eq_comm]

end Support

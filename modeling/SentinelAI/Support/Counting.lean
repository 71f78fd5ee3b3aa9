import Mathlib.Algebra.BigOperators.Ring.Finset
import Mathlib.Data.Fintype.BigOperators
import Mathlib.Logic.Function.Basic

/-!
# Support — Counting

How many of finitely many processes are in a state.

* `card_filter_update`: what one process changing its state does to the number.
-/

namespace Support

variable {ι σ : Type*} [Fintype ι] [DecidableEq ι]

/-- **One process changes its state.**  It leaves the count if it was counted, and enters it if it
is. -/
theorem card_filter_update (P : ι → σ → Prop) [∀ i x, Decidable (P i x)] (f : ι → σ) (i : ι)
    (x : σ) :
    (Finset.univ.filter fun j => P j (Function.update f i x j)).card +
        (if P i (f i) then 1 else 0) =
      (Finset.univ.filter fun j => P j (f j)).card + if P i x then 1 else 0 := by
  have others : ∑ j ∈ Finset.univ.erase i, (if P j (Function.update f i x j) then 1 else 0) =
      ∑ j ∈ Finset.univ.erase i, if P j (f j) then 1 else 0 :=
    Finset.sum_congr rfl fun j hj => by rw [Function.update_of_ne (Finset.ne_of_mem_erase hj)]
  rw [Finset.card_filter, Finset.card_filter, ← Finset.sum_erase_add _ _ (Finset.mem_univ i),
    ← Finset.sum_erase_add _ (fun j => if P j (f j) then 1 else 0) (Finset.mem_univ i), others,
    Function.update_self]
  exact Nat.add_right_comm _ _ _

end Support

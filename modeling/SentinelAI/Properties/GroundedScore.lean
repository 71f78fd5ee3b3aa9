import SentinelAI.Proxy.HallucinationScorer
import Mathlib.Algebra.Order.Field.Basic

/-!
# Properties — GroundedScore

The grounded score is the share of the claims that the context does not support, and falls as the
context grows.

* `score_grounded`: the score, by the token sets of the claims and of the context.
* `groundedScore`: its value, its bounds, and what it depends on.
-/

namespace SentinelAI
open Support

/-! ### The share of unsupported claims -/

section Share
variable {α : Type*} [DecidableEq α]

/-- A claim with no token, or with fewer than half of its tokens in the context. -/
def Unsupported (context claim : Finset α) : Prop :=
  claim = ∅ ∨ 2 * (claim ∩ context).card < claim.card

instance (context : Finset α) : DecidablePred (Unsupported context) := fun _ =>
  inferInstanceAs (Decidable (_ ∨ _))

/-- The share of the claims that are unsupported; no claims have none. -/
def unsupportedShare (context : Finset α) (claims : List (Finset α)) : ℚ :=
  claims.countP (Unsupported context) / claims.length

variable {context context' claim : Finset α} {claims claims' : List (Finset α)}

theorem Unsupported.anti (h : context ⊆ context') (hu : Unsupported context' claim) :
    Unsupported context claim := by
  refine hu.imp_right fun hlt => lt_of_le_of_lt ?_ hlt
  exact Nat.mul_le_mul_left 2 (Finset.card_le_card (Finset.inter_subset_inter_left h))

/-- **More evidence** does not raise the share. -/
theorem unsupportedShare_anti (h : context ⊆ context') :
    unsupportedShare context' claims ≤ unsupportedShare context claims := by
  refine div_le_div_of_nonneg_right ?_ (Nat.cast_nonneg _)
  have counts : claims.countP (Unsupported context') ≤ claims.countP (Unsupported context) := by
    refine List.countP_mono_left fun claim _ hu => ?_
    rw [decide_eq_true_iff] at hu ⊢
    exact hu.anti h
  exact_mod_cast counts

theorem unsupportedShare_nonneg : 0 ≤ unsupportedShare context claims :=
  div_nonneg (Nat.cast_nonneg _) (Nat.cast_nonneg _)

theorem unsupportedShare_le_one : unsupportedShare context claims ≤ 1 :=
  div_le_one_of_le₀ (by exact_mod_cast List.countP_le_length) (Nat.cast_nonneg _)

theorem unsupportedShare_perm (h : claims.Perm claims') :
    unsupportedShare context claims = unsupportedShare context claims' := by
  rw [unsupportedShare, unsupportedShare, h.countP_eq, h.length_eq]

end Share

variable {U : Ucd}

/-! ### The score -/

/-- The overlap of a claim is below the threshold exactly when the claim is unsupported. -/
theorem overlapRatio_lt_iff (claim context : Str) :
    overlapRatio (tokens U claim) (tokens U context) < SUPPORT_THRESHOLD ↔
      Unsupported (tokenSet U context) (tokenSet U claim) := by
  have inter : ((tokens U claim).filter (· ∈ tokens U context)).toFinset =
      tokenSet U claim ∩ tokenSet U context := by
    ext t
    simp
  have card := List.toFinset_card_of_nodup
    ((@nodup_tokens U claim).filter (· ∈ tokens U context))
  rw [inter] at card
  unfold overlapRatio Unsupported SUPPORT_THRESHOLD
  rw [tokenSet_eq_empty_iff, card, card_tokenSet]
  by_cases he : tokens U claim = []
  · simp [he]
  · have pos : (0 : ℚ) < (tokens U claim).length := by
      exact_mod_cast List.length_pos_iff.mpr he
    rw [if_neg he, or_iff_right he, div_lt_iff₀ pos, ← @Nat.cast_lt ℚ]
    push_cast
    constructor
    · intro h
      linarith
    · intro h
      linarith

/-- **The score** is the share of the claims that are unsupported. -/
theorem score_grounded (responseText groundingContext : Str) :
    (scoreGrounded U responseText groundingContext).score =
      unsupportedShare (tokenSet U groundingContext)
        ((splitClaims responseText).map (tokenSet U)) := by
  unfold scoreGrounded unsupportedShare
  by_cases he : splitClaims responseText = []
  · simp [he]
  · simp only [if_neg he]
    rw [List.countP_map, List.length_map, ← List.countP_eq_length_filter]
    simp only [overlapRatio_lt_iff, Function.comp_def]

/-- What the grounded score is, and what it depends on. -/
structure GroundedScore (U : Ucd) : Prop where
  monotone : ∀ responseText c₁ c₂, (∀ t ∈ tokens U c₁, t ∈ tokens U c₂) →
    (scoreGrounded U responseText c₂).score ≤ (scoreGrounded U responseText c₁).score
  nonneg : ∀ responseText context, 0 ≤ (scoreGrounded U responseText context).score
  le_one : ∀ responseText context, (scoreGrounded U responseText context).score ≤ 1
  no_claims : ∀ responseText context, splitClaims responseText = [] →
    (scoreGrounded U responseText context).score = 0
  /-- The number of claims with no token, or fewer than half of whose tokens are in the context, by
  the number of claims. -/
  exact : ∀ responseText context, splitClaims responseText ≠ [] →
    (scoreGrounded U responseText context).score =
      (splitClaims responseText).countP (fun claim => tokenSet U claim = ∅ ∨
        2 * (tokenSet U claim ∩ tokenSet U context).card < (tokenSet U claim).card) /
      (splitClaims responseText).length
  /-- The score depends on the tokens of the context, and on the token sets of the claims as a
  multiset. -/
  depends : ∀ responseText responseText' context context',
    tokenSet U context = tokenSet U context' →
    ((splitClaims responseText).map (tokenSet U)).Perm
      ((splitClaims responseText').map (tokenSet U)) →
    (scoreGrounded U responseText context).score = (scoreGrounded U responseText' context').score

/-- **The grounded score is monotone in evidence.** -/
theorem groundedScore (U : Ucd) : GroundedScore U where
  monotone _ c₁ c₂ h := by
    rw [score_grounded, score_grounded]
    exact unsupportedShare_anti fun t ht => mem_tokenSet.mpr (h t (mem_tokenSet.mp ht))
  nonneg _ _ := by
    rw [score_grounded]
    exact unsupportedShare_nonneg
  le_one _ _ := by
    rw [score_grounded]
    exact unsupportedShare_le_one
  no_claims _ _ h := by
    rw [score_grounded, h]
    simp [unsupportedShare]
  exact _ _ _ := by
    rw [score_grounded, unsupportedShare, List.countP_map, List.length_map]
    rfl
  depends _ _ _ _ hc hp := by
    rw [score_grounded, score_grounded, hc, unsupportedShare_perm hp]

end SentinelAI

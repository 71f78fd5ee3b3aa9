import SentinelAI.Proxy.HallucinationScorer
import SentinelAI.Support.Jaccard

/-!
# Properties — SelfConsistency

The score of samples that answer one question: how far the mean similarity of two of them is from 1.

* `score_ungrounded`: the score, by the token sets of the samples.
* `selfConsistency`: its bounds, its invariance and its extremes.
-/

namespace SentinelAI
open Support

variable {U : Ucd}

/-- The similarity of two texts is the Jaccard index of their token sets. -/
theorem jaccard_tokens (s t : Str) :
    jaccard (tokens U s) (tokens U t) = jaccardIndex (tokenSet U s) (tokenSet U t) := by
  have nodup_inter : (tokens U s ∩ tokens U t).Nodup := nodup_tokens.inter _
  have nodup_union : (tokens U s ∪ tokens U t).Nodup := nodup_tokens.union _
  have inter : (tokens U s ∩ tokens U t).toFinset = tokenSet U s ∩ tokenSet U t := by
    ext token
    simp
  have union : (tokens U s ∪ tokens U t).toFinset = tokenSet U s ∪ tokenSet U t := by
    ext token
    simp
  have empty : tokenSet U s ∪ tokenSet U t = ∅ ↔ tokens U s = [] ∧ tokens U t = [] := by
    rw [Finset.union_eq_empty, tokenSet_eq_empty_iff, tokenSet_eq_empty_iff]
  unfold jaccard jaccardIndex
  by_cases he : tokens U s = [] ∧ tokens U t = []
  · rw [if_pos he, if_pos (empty.mpr he)]
  · have some : tokens U s ∪ tokens U t ≠ [] := by
      intro hn
      refine he (empty.mp ?_)
      rw [← union, hn, List.toFinset_nil]
    simp only [if_neg he, if_neg (mt empty.mp he), if_neg some]
    rw [← List.toFinset_card_of_nodup nodup_inter, ← List.toFinset_card_of_nodup nodup_union,
      inter, union]

/-- **The score** of two samples or more. -/
theorem score_ungrounded {samples : List Str} (hs : 2 ≤ samples.length) :
    (scoreUngrounded U samples).score = 1 - similarity (samples.map (tokenSet U)) := by
  have same : (pairs (samples.map (tokens U))).map (fun p => jaccard p.1 p.2) =
      (pairs (samples.map (tokenSet U))).map fun p => jaccardIndex p.1 p.2 := by
    rw [pairs_map, pairs_map, List.map_map, List.map_map]
    exact List.map_congr_left fun p _ => jaccard_tokens p.1 p.2
  unfold scoreUngrounded similarity mean
  rw [if_neg (not_lt.mpr hs), ← same, List.length_map]

/-- What the score of two samples or more says about them. -/
structure SelfConsistency (U : Ucd) (samples : List Str) : Prop where
  nonneg : 0 ≤ (scoreUngrounded U samples).score
  le_one : (scoreUngrounded U samples).score ≤ 1
  perm : ∀ samples', samples.Perm samples' →
    (scoreUngrounded U samples').score = (scoreUngrounded U samples).score
  zero_iff : (scoreUngrounded U samples).score = 0 ↔
    ∀ s ∈ samples, ∀ t ∈ samples, tokenSet U s = tokenSet U t
  one_iff : (scoreUngrounded U samples).score = 1 ↔
    samples.Pairwise (fun s t => Disjoint (tokenSet U s) (tokenSet U t)) ∧
      samples.countP (fun s => tokenSet U s = ∅) ≤ 1

/-- **The self-consistency score.** -/
theorem selfConsistency (U : Ucd) (samples : List Str) (hs : 2 ≤ samples.length) :
    SelfConsistency U samples := by
  have hl : 2 ≤ (samples.map (tokenSet U)).length := by rwa [List.length_map]
  constructor
  · rw [score_ungrounded hs]
    exact sub_nonneg.mpr (similarity_le_one _)
  · rw [score_ungrounded hs]
    exact sub_le_self 1 (similarity_nonneg _)
  · intro samples' h
    rw [score_ungrounded hs, score_ungrounded (h.length_eq ▸ hs),
      similarity_perm (h.map (tokenSet U))]
  · rw [score_ungrounded hs, sub_eq_zero, eq_comm, similarity_eq_one_iff hl]
    simp only [List.forall_mem_map]
  · rw [score_ungrounded hs, sub_eq_self, similarity_eq_zero_iff hl, List.pairwise_map,
      List.countP_map]
    rfl

theorem selfConsistency_two : SelfConsistency Ucd.ascii ["Total 40", "é"] :=
  selfConsistency Ucd.ascii ["Total 40", "é"] (by decide)

end SentinelAI

import SentinelAI.Properties.GroundedScore
import SentinelAI.Support.Splitting

/-!
# Properties — Verbatim

Whether a claim that stands word for word in the context is supported.  It is exactly when it has a
token: a claim without a letter `a` to `z` or a digit counts as unsupported wherever it stands.

* `tokens_subset_of_occurs`: the tokens of what occurs between sentence ends are tokens of the
  whole.
* `verbatim_iff`: the claims that are supported by their own text.
* `not_verbatim_accent`: a text that is not grounded in itself.
-/

namespace SentinelAI
open Support

/-- Where a character stands matters to its lowercase for the capital sigma only, which has one
lowercase letter, not of ASCII, wherever it stands. -/
structure SigmaAlone (U : Ucd) : Prop where
  alone : ∀ pre c post pre' post', c ≠ 'Σ' → U.lowerAt pre c post = U.lowerAt pre' c post'
  sigma : ∀ pre post, ∃ d, U.lowerAt pre 'Σ' post = [d] ∧ isAscii d = false

theorem Ucd.ascii_sigmaAlone : SigmaAlone Ucd.ascii where
  alone _ _ _ _ _ _ := rfl
  sigma _ _ := ⟨'Σ', rfl, rfl⟩

/-- The claim stands in the text between ends of sentences, apart from white space. -/
def OccursBetween (text claim : Str) : Prop :=
  ∃ pre left right post, text = pre ++ (left ++ claim ++ right) ++ post ∧
    (∀ c ∈ left, isSpace c = true) ∧ (∀ c ∈ right, isSpace c = true) ∧
    EndsWith claimEnd pre ∧ BeginsWith claimEnd post

/-- `score_grounded` does not count the claim as unsupported. -/
def Supported (U : Ucd) (context claim : Str) : Prop :=
  ¬overlapRatio (tokens U claim) (tokens U context) < SUPPORT_THRESHOLD

variable {U : Ucd}

/-! ### Tokens in their context -/

theorem tokens_eq (text : Str) : tokens U text = (runs tokenChar (U.lower text)).dedup := by
  unfold tokens runs
  congr 1
  refine List.filter_congr fun r _ => ?_
  cases r <;> rfl

theorem isAscii_of_tokenChar {c : Char} (h : tokenChar c = true) : isAscii c = true := by
  simp only [tokenChar, Bool.or_eq_true, Bool.and_eq_true, decide_eq_true_iff] at h
  unfold isAscii
  rcases h with ⟨-, h⟩ | ⟨-, h⟩
  · exact decide_eq_true (Nat.lt_of_le_of_lt h (by decide))
  · exact decide_eq_true (Nat.lt_of_le_of_lt h (by decide))

/-- A character that is no token character, as a space. -/
def mask (c : Char) : Char := if tokenChar c then c else ' '

theorem tokenChar_mask (c : Char) : tokenChar (mask c) = tokenChar c := by
  unfold mask
  cases h : tokenChar c with
  | true => simp [h]
  | false =>
      rw [if_neg Bool.false_ne_true]
      decide

/-- The lowercase of a character, masked; it does not depend on where the character stands. -/
def maskedLower (U : Ucd) (c : Char) : Str := (U.lowerChar [] c []).map mask

theorem map_mask_lowerChar (hU : SigmaAlone U) (pre : Str) (c : Char) (post : Str) :
    (U.lowerChar pre c post).map mask = maskedLower U c := by
  unfold maskedLower Ucd.lowerChar
  split
  · rfl
  · by_cases hc : c = 'Σ'
    · subst hc
      obtain ⟨d, hd, had⟩ := hU.sigma pre post
      obtain ⟨e, he, hae⟩ := hU.sigma [] []
      have other : ∀ c, isAscii c = false → mask c = ' ' := by
        intro c hc
        refine if_neg fun ht => ?_
        rw [isAscii_of_tokenChar ht] at hc
        cases hc
      rw [hd, he, List.map_singleton, List.map_singleton, other d had, other e hae]
    · rw [hU.alone pre c post [] [] hc]

theorem map_mask_lowerFrom (hU : SigmaAlone U) (pre s : Str) :
    (U.lowerFrom pre s).map mask = s.flatMap (maskedLower U) := by
  induction s generalizing pre with
  | nil => rfl
  | cons c s ih =>
      rw [Ucd.lowerFrom, List.map_append, map_mask_lowerChar hU, ih, List.flatMap_cons]

/-- The tokens of a text, character by character. -/
theorem mem_tokens_iff (hU : SigmaAlone U) {text t : Str} :
    t ∈ tokens U text ↔ t ∈ runs tokenChar (text.flatMap (maskedLower U)) := by
  have keeps : ∀ c, tokenChar c = true → mask c = c := fun c hc => if_pos hc
  have others : ∀ c, tokenChar c = false → tokenChar (mask c) = false := fun c hc => by
    rw [tokenChar_mask, hc]
  rw [tokens_eq, List.mem_dedup, ← map_mask_lowerFrom hU [], runs_map keeps others]
  rfl

/-- White space and ends of sentences are lowercased to no token character. -/
theorem tokenChar_maskedLower {c d : Char} (hc : isSpace c = true ∨ claimEnd c = true)
    (hd : d ∈ maskedLower U c) : tokenChar d = false := by
  obtain ⟨e, he, rfl⟩ := List.mem_map.mp hd
  rw [tokenChar_mask]
  rcases hc with hs | hend
  · have space : isSpace e = true := (U.isSpace_of_mem_lowerChar he).trans hs
    cases ht : tokenChar e with
    | false => rfl
    | true =>
        have token := forall_ascii (P := fun c => tokenChar c = true → isSpace c = false)
          (by decide) (isAscii_of_tokenChar ht) ht
        rw [space] at token
        cases token
  · simp only [claimEnd, Bool.or_eq_true, beq_iff_eq] at hend
    rcases hend with (rfl | rfl) | rfl
    all_goals
      obtain rfl := List.mem_singleton.mp he
      decide

theorem maskedLower_ne_nil (c : Char) : maskedLower U c ≠ [] := by
  simp [maskedLower, U.lowerChar_ne_nil]

/-- A text that ends with white space or the end of a sentence cuts a run. -/
theorem endsWith_flatMap {s : Str} (h : EndsWith (fun c => isSpace c || claimEnd c) s) :
    EndsWith (fun c => !tokenChar c) (s.flatMap (maskedLower U)) := by
  rcases h.cases with rfl | ⟨s, c, rfl, hc⟩
  · exact fun c hc => nomatch hc
  · intro d hd
    rw [List.flatMap_append, List.flatMap_singleton,
      List.getLast?_append_of_ne_nil _ (maskedLower_ne_nil c)] at hd
    have other := tokenChar_maskedLower (by simpa using hc) (List.mem_of_getLast? hd)
    simp [other]

theorem beginsWith_flatMap {s : Str} (h : BeginsWith (fun c => isSpace c || claimEnd c) s) :
    BeginsWith (fun c => !tokenChar c) (s.flatMap (maskedLower U)) := by
  cases s with
  | nil => exact fun c hc => nomatch hc
  | cons c s =>
      intro d hd
      rw [List.flatMap_cons, List.head?_append_of_ne_nil _ (maskedLower_ne_nil c)] at hd
      have other := tokenChar_maskedLower (by simpa using h c rfl) (List.mem_of_head? hd)
      simp [other]

/-- **What occurs between sentence ends** has its tokens among those of the whole. -/
theorem tokens_subset_of_occurs (hU : SigmaAlone U) {text claim : Str}
    (h : OccursBetween text claim) : ∀ t ∈ tokens U claim, t ∈ tokens U text := by
  obtain ⟨pre, left, right, post, rfl, hleft, hright, hpre, hpost⟩ := h
  intro t ht
  have before : EndsWith (fun c => isSpace c || claimEnd c) (pre ++ left) := by
    refine EndsWith.append (fun c hc => ?_) fun c hc => ?_
    · simp [hpre c hc]
    · simp [hleft c (List.mem_of_getLast? hc)]
  have after : BeginsWith (fun c => isSpace c || claimEnd c) (right ++ post) := by
    intro c hc
    cases right with
    | nil => simp [hpost c hc]
    | cons d right =>
        obtain rfl : d = c := by simpa using hc
        simp [hright d List.mem_cons_self]
  rw [mem_tokens_iff hU] at ht ⊢
  have inside := (@runs_sublist_between _ tokenChar _ (claim.flatMap (maskedLower U)) _
    (@endsWith_flatMap U _ before) (@beginsWith_flatMap U _ after)).subset ht
  simpa only [List.flatMap_append, List.append_assoc] using inside

/-! ### Claims -/

/-- A claim of a text occurs in it. -/
theorem occursBetween_of_mem {text claim : Str} (h : claim ∈ splitClaims text) :
    OccursBetween text claim := by
  obtain ⟨part, hp, rfl⟩ := List.mem_map.mp (List.mem_filter.mp h).1
  obtain ⟨-, pre, post, rfl, hpre, hpost⟩ := mem_splitOnP_iff.mp hp
  obtain ⟨left, right, hs, hleft, hright⟩ := strip_between part
  exact ⟨pre, left, right, post, by rw [← hs], hleft, hright, hpre, hpost⟩

/-- **A claim that occurs** is supported exactly when it has a token. -/
theorem supported_iff (hU : SigmaAlone U) {context claim : Str} (h : OccursBetween context claim) :
    Supported U context claim ↔ tokens U claim ≠ [] := by
  have inside : tokenSet U claim ∩ tokenSet U context = tokenSet U claim :=
    Finset.inter_eq_left.mpr fun t ht =>
      mem_tokenSet.mpr (tokens_subset_of_occurs hU h t (mem_tokenSet.mp ht))
  rw [Supported, overlapRatio_lt_iff, Unsupported, inside, tokenSet_eq_empty_iff, not_or]
  exact and_iff_left (by omega)

/-- The score of a text is zero exactly when it has no unsupported claim. -/
theorem score_eq_zero_iff {responseText context : Str} :
    (scoreGrounded U responseText context).score = 0 ↔
      ∀ claim ∈ splitClaims responseText, Supported U context claim := by
  rw [score_grounded, unsupportedShare, List.countP_map, List.length_map, div_eq_zero_iff,
    Nat.cast_eq_zero, Nat.cast_eq_zero, List.countP_eq_zero, List.length_eq_zero_iff]
  simp only [Function.comp_apply, decide_eq_true_iff, Supported, overlapRatio_lt_iff]
  refine or_iff_left_of_imp fun he => ?_
  rw [he]
  exact fun claim hc => absurd hc List.not_mem_nil

/-- Verbatim text is grounded: every text in itself, and every claim of a response in a context
where it occurs. -/
structure Verbatim (U : Ucd) (text response context : Str) : Prop where
  itself : (scoreGrounded U text text).score = 0
  occurring : ∀ claim ∈ splitClaims response, OccursBetween context claim →
    Supported U context claim

/-- **Verbatim text is grounded** exactly when the claims in question have a token. -/
theorem verbatim_iff (hU : SigmaAlone U) (text response context : Str) :
    Verbatim U text response context ↔
      (∀ claim ∈ splitClaims text, tokens U claim ≠ []) ∧
      ∀ claim ∈ splitClaims response, OccursBetween context claim → tokens U claim ≠ [] := by
  have itself : (scoreGrounded U text text).score = 0 ↔
      ∀ claim ∈ splitClaims text, tokens U claim ≠ [] := by
    rw [score_eq_zero_iff]
    exact forall₂_congr fun claim hc => supported_iff hU (occursBetween_of_mem hc)
  have occurring : (∀ claim ∈ splitClaims response, OccursBetween context claim →
        Supported U context claim) ↔
      ∀ claim ∈ splitClaims response, OccursBetween context claim → tokens U claim ≠ [] :=
    forall₃_congr fun claim _ ho => supported_iff hU ho
  rw [← itself, ← occurring]
  exact ⟨fun h => ⟨h.itself, h.occurring⟩, fun h => ⟨h.1, h.2⟩⟩

/-- Every claim of these has a token. -/
theorem verbatim_iff_total :
    Verbatim Ucd.ascii "Paid in cash." "The total is 42. Paid" "Total: 42. Paid!" := by
  have tokened : ∀ claim ∈ splitClaims "The total is 42. Paid", tokens Ucd.ascii claim ≠ [] := by
    decide
  exact (verbatim_iff Ucd.ascii_sigmaAlone _ _ _).mpr
    ⟨by decide, fun claim hc _ => tokened claim hc⟩

/-- A letter with an accent is no token, and a text of it alone is not grounded in itself. -/
theorem not_verbatim_accent :
    (scoreGrounded Ucd.ascii "é" "é").score = 1 ∧ ¬ Supported Ucd.ascii "é" "é" ∧
      ¬ ∀ U, SigmaAlone U → ∀ text response context, Verbatim U text response context := by
  have one : (scoreGrounded Ucd.ascii "é" "é").score = 1 := by decide +kernel
  refine ⟨one, by unfold Supported; decide +kernel, fun h => ?_⟩
  rw [(h Ucd.ascii Ucd.ascii_sigmaAlone "é" "é" "é").itself] at one
  exact zero_ne_one one

end SentinelAI

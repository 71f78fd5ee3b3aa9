import SentinelAI.Proxy.Schemas
import SentinelAI.Support.Pairs
import Mathlib.Algebra.Field.Rat
import Mathlib.Data.Finset.Card

/-!
# Proxy — HallucinationScorer

`proxy/eval/hallucination_scorer.py`.  A score is the rational number that the float stands for, and
a set of tokens is a list without repetitions.
-/

namespace SentinelAI
open Support

def SUPPORT_THRESHOLD : Rat := 1 / 2

/-- `[a-z0-9]` -/
def tokenChar (c : Char) : Bool := ('a' ≤ c && c ≤ 'z') || ('0' ≤ c && c ≤ '9')

/-- `[.!?]` -/
def claimEnd (c : Char) : Bool := c == '.' || c == '!' || c == '?'

variable (U : Ucd)

/-- The maximal runs of token characters, as a set. -/
def tokens (text : Str) : List Str :=
  (((U.lower text).splitOnP fun c => !tokenChar c).filter (· ≠ [])).dedup

def splitClaims (text : Str) : List Str :=
  ((text.splitOnP claimEnd).map strip).filter (· ≠ [])

def overlapRatio (claimTokens contextTokens : List Str) : Rat :=
  if claimTokens = [] then 0
  else ((claimTokens.filter (· ∈ contextTokens)).length : Rat) / claimTokens.length

def scoreGrounded (responseText groundingContext : Str) : HallucinationResult :=
  let claims := splitClaims responseText
  if claims = [] then ⟨0, .grounded⟩
  else
    let contextTokens := tokens U groundingContext
    let unsupported := claims.filter fun c =>
      overlapRatio (tokens U c) contextTokens < SUPPORT_THRESHOLD
    ⟨(unsupported.length : Rat) / claims.length, .grounded⟩

example :
    (scoreGrounded Ucd.ascii "The total is 40. It was paid!" "Total 40, paid").score = 1 / 2 := by
  decide +kernel

/-- `_jaccard` -/
def jaccard (a b : List Str) : Rat :=
  if a = [] ∧ b = [] then 1
  else
    let union := a ∪ b
    if union = [] then 0 else ((a ∩ b).length : Rat) / union.length

def scoreUngrounded (samples : List Str) : HallucinationResult :=
  if samples.length < 2 then ⟨0, .ungrounded⟩
  else
    let tokenSets := samples.map (tokens U)
    let pairs := pairs tokenSets
    let meanSimilarity := (pairs.map fun p => jaccard p.1 p.2).sum / pairs.length
    ⟨1 - meanSimilarity, .ungrounded⟩

example : (scoreUngrounded Ucd.ascii ["Total 40", "total 50", "40"]).score = 13 / 18 := by
  decide +kernel

/-! ### Sets of tokens -/

/-- The tokens of a text, as a set. -/
def tokenSet (text : Str) : Finset Str := (tokens U text).toFinset

variable {U} {text : Str}

theorem nodup_tokens : (tokens U text).Nodup := List.nodup_dedup _

@[simp] theorem mem_tokenSet {t : Str} : t ∈ tokenSet U text ↔ t ∈ tokens U text :=
  List.mem_toFinset

@[simp] theorem card_tokenSet : (tokenSet U text).card = (tokens U text).length :=
  List.toFinset_card_of_nodup nodup_tokens

theorem tokenSet_eq_empty_iff : tokenSet U text = ∅ ↔ tokens U text = [] :=
  List.toFinset_eq_empty_iff _

end SentinelAI

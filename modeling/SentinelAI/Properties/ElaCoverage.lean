import SentinelAI.Agents.Forensics
import Mathlib.Algebra.Order.BigOperators.Ring.Finset
import Mathlib.Algebra.Order.Field.Basic
import Mathlib.Data.Set.Basic
import Mathlib.Tactic.Positivity

/-!
# Properties — ElaCoverage

Which pixels the score of an image looks at.  Only whole blocks are averaged, so the strips that are
left over at the bottom and on the right are in no block, and no residual there has a say.

* `blocksAt_eq`: the number of blocks that a pixel is in.
* `affectsScore_iff`: what is in a region can affect the score exactly when a pixel of it is
  examined.
* `everyPixelExamined_iff`: every pixel is examined exactly when no block fits, or the blocks divide
  the image.
-/

namespace SentinelAI
open Support

/-- The number of blocks, of an image of `h` by `w`, that the pixel at `y`, `x` is in. -/
def blocksAt (h w y x : Nat) : Nat :=
  (blocks h w).countP fun corner => y ∈ slice h corner.1 && x ∈ slice w corner.2

/-- The pixel is in one block, or no block fits and the whole image is averaged. -/
def Examined (h w y x : Nat) : Prop := blocks h w = [] ∨ blocksAt h w y x = 1

/-- Two images of one size are the same outside the region. -/
structure SameOutside (region : Set (Nat × Nat)) (a b : Image) : Prop where
  h : a.h = b.h
  w : a.w = b.w
  pixel : ∀ y < a.h, ∀ x < a.w, (y, x) ∉ region → a.pixel y x = b.pixel y x

/-- What is in the region can change the score of an image of this size. -/
def AffectsScore (h w : Nat) (region : Set (Nat × Nat)) : Prop :=
  ∃ a b : Image, a.h = h ∧ a.w = w ∧ SameOutside region a b ∧
    maxBlockResidual a ≠ maxBlockResidual b

/-- Every pixel is in one block, unless none fits, and every region of the image can affect the
score. -/
structure EveryPixelExamined (h w : Nat) : Prop where
  examined : ∀ y < h, ∀ x < w, Examined h w y x
  affects : ∀ region : Set (Nat × Nat), (∃ y < h, ∃ x < w, (y, x) ∈ region) →
    AffectsScore h w region

variable {h w y x : Nat}

/-! ### The blocks -/

theorem blocks_eq_nil_iff : blocks h w = [] ↔ h < ELA_BLOCK_SIZE ∨ w < ELA_BLOCK_SIZE := by
  rw [← blockStarts_eq_nil_iff, ← blockStarts_eq_nil_iff]
  unfold blocks
  simp only [List.flatMap_eq_nil_iff, List.map_eq_nil_iff]
  constructor
  · intro hb
    by_contra hn
    obtain ⟨hh, hw⟩ := not_or.mp hn
    obtain ⟨s, hs⟩ := List.exists_mem_of_ne_nil _ hh
    exact hw (hb s hs)
  · rintro (hh | hw) s hs
    · exact absurd (hh ▸ hs : s ∈ []) List.not_mem_nil
    · exact hw

theorem mem_slice {n start i : Nat} (hi : i < n) :
    i ∈ slice n start ↔ start ≤ i ∧ i < start + ELA_BLOCK_SIZE := by
  rw [slice, Finset.mem_Ico, lt_min_iff, and_iff_left hi]

/-- **The blocks of a pixel**: one where both of its places are covered, and none elsewhere. -/
theorem blocksAt_eq (hy : y < h) (hx : x < w) : blocksAt h w y x =
    if y < covered h ELA_BLOCK_SIZE ∧ x < covered w ELA_BLOCK_SIZE then 1 else 0 := by
  unfold blocksAt blocks
  rw [countP_pairs (fun s => decide (y ∈ slice h s)) fun s => decide (x ∈ slice w s)]
  simp only [mem_slice hy, mem_slice hx]
  change (blockStarts h ELA_BLOCK_SIZE).countP _ * (blockStarts w ELA_BLOCK_SIZE).countP _ = _
  rw [count_blocks (by decide), count_blocks (by decide)]
  by_cases hc : y < covered h ELA_BLOCK_SIZE
  · simp [hc]
  · simp [hc]

/-- A pixel of a block is in no other. -/
theorem examined_of_mem (hy : y < h) (hx : x < w) {corner : Nat × Nat} (hc : corner ∈ blocks h w)
    (hrow : y ∈ slice h corner.1) (hcol : x ∈ slice w corner.2) : Examined h w y x := by
  have some : 0 < blocksAt h w y x := List.countP_pos_iff.mpr ⟨corner, hc, by simp [hrow, hcol]⟩
  right
  rw [blocksAt_eq hy hx] at some ⊢
  split at some
  · rename_i covered
    exact if_pos covered
  · exact absurd some (lt_irrefl 0)

/-! ### Means -/

variable {a b : Image}

theorem meanOf_congr {rows cols : Finset Nat}
    (same : ∀ y ∈ rows, ∀ x ∈ cols, a.pixel y x = b.pixel y x) :
    meanOf a rows cols = meanOf b rows cols := by
  unfold meanOf
  congr 1
  refine Finset.sum_congr rfl fun y hy => Finset.sum_congr rfl fun x hx => ?_
  rw [same y hy x hx]

theorem meanOf_pos {rows cols : Finset Nat} (hy : y ∈ rows) (hx : x ∈ cols)
    (hp : a.pixel y x 0 ≠ 0) : 0 < meanOf a rows cols := by
  have nonneg (y x : Nat) (c : Fin 3) : (0 : ℚ) ≤ ((a.pixel y x c).toNat : ℚ) / 255 := by positivity
  have channel : (0 : ℚ) < ((a.pixel y x 0).toNat : ℚ) / 255 := by
    have : 0 < (a.pixel y x 0).toNat := Nat.pos_of_ne_zero fun h0 => hp (UInt8.toNat_inj.mp h0)
    positivity
  have total : 0 < ∑ y ∈ rows, ∑ x ∈ cols, ∑ c : Fin 3, ((a.pixel y x c).toNat : ℚ) / 255 := by
    refine Finset.sum_pos' (fun y _ => Finset.sum_nonneg fun x _ => Finset.sum_nonneg fun c _ =>
      nonneg y x c) ⟨y, hy, ?_⟩
    refine Finset.sum_pos' (fun x _ => Finset.sum_nonneg fun c _ => nonneg y x c) ⟨x, hx, ?_⟩
    exact Finset.sum_pos' (fun c _ => nonneg y x c) ⟨0, Finset.mem_univ 0, channel⟩
  have hrows : 0 < rows.card := Finset.card_pos.mpr ⟨y, hy⟩
  have hcols : 0 < cols.card := Finset.card_pos.mpr ⟨x, hx⟩
  unfold meanOf
  positivity

/-! ### The score -/

/-- **What the score depends on**: the pixels that are examined. -/
theorem maxBlockResidual_congr (hh : a.h = b.h) (hw : a.w = b.w)
    (same : ∀ y < a.h, ∀ x < a.w, Examined a.h a.w y x → a.pixel y x = b.pixel y x) :
    maxBlockResidual a = maxBlockResidual b := by
  have means : (blocks a.h a.w).map (blockMean a) = (blocks b.h b.w).map (blockMean b) := by
    rw [← hh, ← hw]
    refine List.map_congr_left fun corner hc => ?_
    unfold blockMean
    rw [← hh, ← hw]
    refine meanOf_congr fun y hy x hx => ?_
    have hyh : y < a.h := (lt_min_iff.mp (Finset.mem_Ico.mp hy).2).2
    have hxw : x < a.w := (lt_min_iff.mp (Finset.mem_Ico.mp hx).2).2
    refine same y hyh x hxw (examined_of_mem hyh hxw hc hy hx)
  unfold maxBlockResidual
  rw [← means]
  cases hm : ((blocks a.h a.w).map (blockMean a)).max? with
  | some score => rfl
  | none =>
      have fits := List.map_eq_nil_iff.mp (List.max?_eq_none_iff.mp hm)
      dsimp only
      rw [← hh, ← hw]
      exact meanOf_congr fun y hy x hx =>
        same y (Finset.mem_range.mp hy) x (Finset.mem_range.mp hx) (.inl fits)

/-- A residual that is zero everywhere. -/
def blank (h w : Nat) : Image := ⟨h, w, fun _ _ _ => 0⟩

/-- A residual that is as large as can be in a region, and zero elsewhere. -/
def marked (h w : Nat) (region : Nat → Nat → Bool) : Image :=
  ⟨h, w, fun y x _ => if region y x then 255 else 0⟩

theorem maxBlockResidual_blank : maxBlockResidual (blank h w) = 0 := by
  have zero (rows cols : Finset Nat) : meanOf (blank h w) rows cols = 0 := by simp [meanOf, blank]
  unfold maxBlockResidual
  cases hm : ((blocks (blank h w).h (blank h w).w).map (blockMean (blank h w))).max? with
  | none => exact zero _ _
  | some score =>
      obtain ⟨corner, -, rfl⟩ := List.mem_map.mp (List.max?_mem hm)
      exact zero _ _

/-- A residual at a pixel that is examined raises the score. -/
theorem maxBlockResidual_pos (hy : y < a.h) (hx : x < a.w) (hp : a.pixel y x 0 ≠ 0)
    (he : Examined a.h a.w y x) : 0 < maxBlockResidual a := by
  unfold maxBlockResidual
  cases hm : ((blocks a.h a.w).map (blockMean a)).max? with
  | none => exact meanOf_pos (Finset.mem_range.mpr hy) (Finset.mem_range.mpr hx) hp
  | some score =>
      have fits : blocks a.h a.w ≠ [] := by
        intro hb
        rw [hb] at hm
        cases hm
      have one : 0 < blocksAt a.h a.w y x := (he.resolve_left fits).symm ▸ Nat.one_pos
      obtain ⟨corner, hc, hin⟩ := List.countP_pos_iff.mp one
      simp only [Bool.and_eq_true, decide_eq_true_iff] at hin
      calc 0 < blockMean a corner := meanOf_pos hin.1 hin.2 hp
        _ ≤ score := (List.max?_eq_some_iff.mp hm).2 _ (List.mem_map_of_mem hc)

/-- All pixels are examined exactly when no block fits, or the blocks divide both sides. -/
theorem everywhere_iff : (∀ y < h, ∀ x < w, Examined h w y x) ↔
    blocks h w = [] ∨ (ELA_BLOCK_SIZE ∣ h ∧ ELA_BLOCK_SIZE ∣ w) := by
  rw [← covered_eq_iff, ← covered_eq_iff]
  constructor
  · intro all
    by_cases fits : blocks h w = []
    · exact .inl fits
    · -- the last pixel is in a block, so its places are covered, and with them all others
      have sides : ELA_BLOCK_SIZE ≤ h ∧ ELA_BLOCK_SIZE ≤ w := by
        simpa [blocks_eq_nil_iff] using fits
      have size : 0 < ELA_BLOCK_SIZE := by decide
      have hy : h - 1 < h := by omega
      have hx : w - 1 < w := by omega
      have last := (all _ hy _ hx).resolve_left fits
      rw [blocksAt_eq hy hx] at last
      have cover : h - 1 < covered h ELA_BLOCK_SIZE ∧ w - 1 < covered w ELA_BLOCK_SIZE := by
        by_contra hn
        rw [if_neg hn] at last
        cases last
      have hh : covered h ELA_BLOCK_SIZE ≤ h := covered_le
      have hw : covered w ELA_BLOCK_SIZE ≤ w := covered_le
      exact .inr ⟨by omega, by omega⟩
  · rintro (fits | ⟨hh, hw⟩) y hy x hx
    · exact .inl fits
    · right
      rw [blocksAt_eq hy hx, hh, hw]
      exact if_pos ⟨hy, hx⟩

/-- **What a region affects**: the score, exactly when a pixel of it is examined. -/
theorem affectsScore_iff {region : Set (Nat × Nat)} : AffectsScore h w region ↔
    ∃ y < h, ∃ x < w, (y, x) ∈ region ∧ Examined h w y x := by
  constructor
  · rintro ⟨a, b, rfl, rfl, same, hne⟩
    by_contra hn
    refine hne (maxBlockResidual_congr same.h same.w fun y hy x hx he => ?_)
    exact same.pixel y hy x hx fun hr => hn ⟨y, hy, x, hx, hr, he⟩
  · rintro ⟨y, hy, x, hx, hr, he⟩
    let a := marked h w fun y' x' => y' = y && x' = x
    have lit : a.pixel y x 0 ≠ 0 := by simp [a, marked]
    have unlit : ∀ y' < h, ∀ x' < w, (y', x') ∉ region →
        a.pixel y' x' = (blank h w).pixel y' x' := by
      intro y' _ x' _ hout
      have other : ¬(y' = y ∧ x' = x) := by
        rintro ⟨rfl, rfl⟩
        exact hout hr
      funext c
      simp [a, marked, blank, other]
    refine ⟨a, blank h w, rfl, rfl, ⟨rfl, rfl, unlit⟩, ?_⟩
    rw [maxBlockResidual_blank]
    exact (@maxBlockResidual_pos y x a hy hx lit he).ne'

/-- **Every pixel is examined** exactly when no block fits, or the sides are multiples of the
block's. -/
theorem everyPixelExamined_iff (h w : Nat) : EveryPixelExamined h w ↔
    h < ELA_BLOCK_SIZE ∨ w < ELA_BLOCK_SIZE ∨ (ELA_BLOCK_SIZE ∣ h ∧ ELA_BLOCK_SIZE ∣ w) := by
  rw [← or_assoc, ← blocks_eq_nil_iff, ← everywhere_iff]
  exact ⟨fun every => every.examined, fun all => ⟨all, fun region ⟨y, hy, x, hx, hr⟩ =>
    affectsScore_iff.mpr ⟨y, hy, x, hx, hr, all y hy x hx⟩⟩⟩

/-! ### A strip that is left over -/

/-- The largest residual in all of the last column of an image of 16 by 17 leaves its score at
zero, and the image as little suspicious as an untouched one. -/
theorem not_everyPixelExamined_strip :
    blocks 16 17 ≠ [] ∧ (∀ y < 16, blocksAt 16 17 y 16 = 0) ∧
    maxBlockResidual (marked 16 17 fun _ x => x = 16) = 0 ∧
    tamperLikelihood (maxBlockResidual (marked 16 17 fun _ x => x = 16)) [] = .low ∧
    ¬ ∀ h w, 1 ≤ h → 1 ≤ w → EveryPixelExamined h w := by
  have unseen : ∀ y < 16, blocksAt 16 17 y 16 = 0 := by decide
  have fits : blocks 16 17 ≠ [] := by decide
  have score : maxBlockResidual (marked 16 17 fun _ x => x = 16) = 0 := by
    rw [← @maxBlockResidual_blank 16 17]
    refine maxBlockResidual_congr rfl rfl fun y hy x hx he => ?_
    have other : x ≠ 16 := by
      rintro rfl
      have one : blocksAt 16 17 y 16 = 1 := he.resolve_left fits
      rw [unseen y hy] at one
      cases one
    funext c
    simp [marked, blank, other]
  refine ⟨fits, unseen, score, by rw [score]; decide +kernel, fun every => ?_⟩
  have seen := ((every 16 17 (by decide) (by decide)).examined 0 (by decide) 16
    (by decide)).resolve_left fits
  rw [unseen 0 (by decide)] at seen
  cases seen

end SentinelAI

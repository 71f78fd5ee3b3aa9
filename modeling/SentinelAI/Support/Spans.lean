import Mathlib.Data.List.Sort
import Mathlib.Data.List.Infix

/-!
# Support — Spans

Choosing non-overlapping spans of a text, leftmost first and longest first at each start, and
masking the chosen ones.

* `select` runs once over the sorted spans and drops each span that starts before the end of the
  last one kept.  `isSelection_kept` says what it keeps, and `IsSelection.eq_kept` that nothing else
  is kept so.
* `covers_iff_tiled`: what is kept covers everything detected exactly when the detected spans can
  be *tiled*: some of them, pairwise disjoint and each the longest at its start, cover everything.
* `fill` masks the kept spans; `copies_fill_iff` says which positions it copies, `out_append` that
  two texts can be masked one after the other, and `out_injective` that the masked text determines
  what was kept.
-/

namespace Support

variable {L : Type*}

/-- A labelled span of a text. -/
structure Span (L : Type*) where
  start : Nat
  stop : Nat
  label : L
deriving DecidableEq

namespace Span

def len (s : Span L) : Nat := s.stop - s.start

/-- Position `p` lies inside `s`. -/
def Covers (s : Span L) (p : Nat) : Prop := s.start ≤ p ∧ p < s.stop

/-- `s` in a text that `n` more characters precede. -/
def shift (n : Nat) (s : Span L) : Span L := ⟨n + s.start, n + s.stop, s.label⟩

/-- `a` comes no later than `b`: it starts earlier, or at the same place and is no shorter. -/
def Before (a b : Span L) : Prop := a.start < b.start ∨ a.start = b.start ∧ b.len ≤ a.len

instance : DecidableRel (Before (L := L)) := fun a b =>
  inferInstanceAs (Decidable (a.start < b.start ∨ a.start = b.start ∧ b.len ≤ a.len))

instance : Std.Total (Before (L := L)) where
  total a b := by unfold Before; omega

instance : IsTrans (Span L) Before where
  trans a b c := by unfold Before; omega

/-- The spans in order, stably. -/
def sorted (D : List (Span L)) : List (Span L) := D.insertionSort Before

theorem mem_sorted {D : List (Span L)} {s : Span L} : s ∈ sorted D ↔ s ∈ D :=
  (List.perm_insertionSort Before D).mem_iff

theorem sorted_pairwise (D : List (Span L)) : (sorted D).Pairwise Before :=
  List.pairwise_insertionSort Before D

/-- From cursor `c` on, the spans that do not start before the end of the last one kept. -/
def select : Nat → List (Span L) → List (Span L)
  | _, [] => []
  | c, s :: l => if s.start < c then select c l else s :: select s.stop l

/-- What leftmost-longest selection keeps of `D`. -/
def kept (D : List (Span L)) : List (Span L) := select 0 (sorted D)

def sameExtent (s d : Span L) : Bool := d.start = s.start ∧ d.stop = s.stop

/-- Some span of `K` covers `p`. -/
def Covered (K : List (Span L)) (p : Nat) : Prop := ∃ k ∈ K, k.Covers p

/-- `K` is what leftmost-longest selection keeps of `D`. -/
structure IsSelection (D K : List (Span L)) : Prop where
  sub : ∀ k ∈ K, k ∈ D
  disjoint : K.Pairwise fun a b => a.stop ≤ b.start
  longest : ∀ k ∈ K, ∀ d ∈ D, d.start = k.start → d.len ≤ k.len
  /-- A span that is not kept starts inside one that is. -/
  dominates : ∀ d ∈ D, d ∈ K ∨ ∃ k ∈ K, k.Covers d.start
  /-- Of the spans of one extent, the first is kept. -/
  first : ∀ k ∈ K, k.start < k.stop → D.find? k.sameExtent = some k

/-- Some of the spans, pairwise disjoint and each the longest at its start, cover all that the
spans cover. -/
def Tiled (D : List (Span L)) : Prop :=
  ∃ K : List (Span L), (∀ k ∈ K, k ∈ D) ∧ (∀ a ∈ K, ∀ b ∈ K, a.start < b.start → a.stop ≤ b.start) ∧
    (∀ k ∈ K, ∀ d ∈ D, d.start = k.start → d.len ≤ k.len) ∧ ∀ p, Covered D p → Covered K p

/-! ### What `select` keeps -/

theorem mem_of_mem_select {k : Span L} : ∀ {l : List (Span L)} {c : Nat}, k ∈ select c l → k ∈ l
  | [], _, h => by cases h
  | s :: l, c, h => by
      simp only [select] at h
      split at h
      · exact List.mem_cons_of_mem _ (mem_of_mem_select h)
      · rcases List.mem_cons.mp h with rfl | h
        · exact List.mem_cons_self
        · exact List.mem_cons_of_mem _ (mem_of_mem_select h)

theorem mem_of_mem_kept {D : List (Span L)} {k : Span L} (h : k ∈ kept D) : k ∈ D :=
  mem_sorted.mp (mem_of_mem_select h)

/-- Something is kept, where there is something. -/
theorem kept_ne_nil {D : List (Span L)} (h : D ≠ []) : kept D ≠ [] := by
  obtain ⟨d, hd⟩ := List.exists_mem_of_ne_nil D h
  unfold kept
  cases hs : sorted D with
  | nil => exact absurd (hs ▸ mem_sorted.mpr hd) List.not_mem_nil
  | cons s l => simp [select]

theorem le_start_of_mem_select {l : List (Span L)} (hl : l.Pairwise Before)
    (hs : ∀ s ∈ l, s.start ≤ s.stop) {c : Nat} {k : Span L} (h : k ∈ select c l) :
    c ≤ k.start := by
  induction l generalizing c with
  | nil => cases h
  | cons s l ih =>
      simp only [select] at h
      have hl' := (List.pairwise_cons.mp hl).2
      have hs' : ∀ s ∈ l, s.start ≤ s.stop := fun s h => hs s (List.mem_cons_of_mem _ h)
      split at h
      · exact ih hl' hs' h
      · rcases List.mem_cons.mp h with rfl | h
        · omega
        · have := ih hl' hs' h
          have := hs s List.mem_cons_self
          omega

theorem select_pairwise {l : List (Span L)} (hl : l.Pairwise Before)
    (hs : ∀ s ∈ l, s.start ≤ s.stop) (c : Nat) :
    (select c l).Pairwise fun a b => a.stop ≤ b.start := by
  induction l generalizing c with
  | nil => exact .nil
  | cons s l ih =>
      have hl' := (List.pairwise_cons.mp hl).2
      have hs' : ∀ s ∈ l, s.start ≤ s.stop := fun s h => hs s (List.mem_cons_of_mem _ h)
      simp only [select]
      split
      · exact ih hl' hs' c
      · exact .cons (fun k hk => le_start_of_mem_select hl' hs' hk) (ih hl' hs' s.stop)

theorem select_dominates {l : List (Span L)} (hl : l.Pairwise Before) {d : Span L} (hd : d ∈ l)
    (c : Nat) : d ∈ select c l ∨ d.start < c ∨ ∃ k ∈ select c l, k.Covers d.start := by
  induction l generalizing c with
  | nil => cases hd
  | cons s l ih =>
      obtain ⟨hsl, hl'⟩ := List.pairwise_cons.mp hl
      simp only [select]
      split
      · rename_i hc
        rcases List.mem_cons.mp hd with rfl | hd
        · exact .inr (.inl hc)
        · exact ih hl' hd c
      · rcases List.mem_cons.mp hd with rfl | hd
        · exact .inl List.mem_cons_self
        · rcases ih hl' hd s.stop with h | h | ⟨k, hk, hkd⟩
          · exact .inl (List.mem_cons_of_mem _ h)
          · -- `d` comes after `s` in the order, and starts before the end of `s`
            have := hsl d hd
            exact .inr (.inr ⟨s, List.mem_cons_self, by unfold Before at this; omega, h⟩)
          · exact .inr (.inr ⟨k, List.mem_cons_of_mem _ hk, hkd⟩)

theorem select_longest {l : List (Span L)} (hl : l.Pairwise Before)
    (hs : ∀ s ∈ l, s.start ≤ s.stop) {c : Nat} {k d : Span L} (hk : k ∈ select c l) (hd : d ∈ l)
    (he : d.start = k.start) : d.len ≤ k.len := by
  induction l generalizing c with
  | nil => cases hd
  | cons s l ih =>
      obtain ⟨hsl, hl'⟩ := List.pairwise_cons.mp hl
      have hs' : ∀ s ∈ l, s.start ≤ s.stop := fun s h => hs s (List.mem_cons_of_mem _ h)
      simp only [select] at hk
      split at hk
      · rcases List.mem_cons.mp hd with rfl | hd
        · have := le_start_of_mem_select hl' hs' hk
          omega
        · exact ih hl' hs' hk hd
      · rcases List.mem_cons.mp hk with rfl | hk
        · rcases List.mem_cons.mp hd with rfl | hd
          · exact Nat.le_refl _
          · have := hsl d hd
            unfold Before at this
            omega
        · rcases List.mem_cons.mp hd with rfl | hd
          · have := le_start_of_mem_select hl' hs' hk
            unfold len
            omega
          · exact ih hl' hs' hk hd

/-- Sorting leaves the spans of one extent in their order. -/
theorem find?_sorted (D : List (Span L)) (k : Span L) :
    (sorted D).find? k.sameExtent = D.find? k.sameExtent := by
  have hsub : (D.filter k.sameExtent).Sublist (sorted D) := by
    -- two spans of one extent are in order both ways, so the sort does not swap them
    refine List.sublist_insertionSort ?_ List.filter_sublist
    refine List.pairwise_of_forall_mem_list fun a ha b hb => ?_
    have ha := (List.mem_filter.mp ha).2
    have hb := (List.mem_filter.mp hb).2
    simp only [sameExtent, decide_eq_true_eq] at ha hb
    unfold Before len
    omega
  have hfil : (D.filter k.sameExtent).Sublist ((sorted D).filter k.sameExtent) := by
    simpa using hsub.filter k.sameExtent
  have hlen : (D.filter k.sameExtent).length = ((sorted D).filter k.sameExtent).length :=
    ((List.perm_insertionSort Before D).filter _).length_eq.symm
  rw [← List.head?_filter, ← List.head?_filter, hfil.eq_of_length hlen]

theorem find?_of_mem_select {l : List (Span L)} (hl : l.Pairwise Before)
    (hs : ∀ s ∈ l, s.start ≤ s.stop) {c : Nat} {k : Span L} (hk : k ∈ select c l)
    (hlt : k.start < k.stop) : l.find? k.sameExtent = some k := by
  induction l generalizing c with
  | nil => cases hk
  | cons s l ih =>
      have hl' := (List.pairwise_cons.mp hl).2
      have hs' : ∀ s ∈ l, s.start ≤ s.stop := fun s h => hs s (List.mem_cons_of_mem _ h)
      simp only [select] at hk
      split at hk
      · have := le_start_of_mem_select hl' hs' hk
        rw [List.find?_cons_of_neg (by simp [sameExtent]; omega)]
        exact ih hl' hs' hk
      · rcases List.mem_cons.mp hk with rfl | hk
        · exact List.find?_cons_of_pos (by simp [sameExtent])
        · have := le_start_of_mem_select hl' hs' hk
          rw [List.find?_cons_of_neg (by simp [sameExtent]; omega)]
          exact ih hl' hs' hk

/-- **What the single pass keeps.** -/
theorem isSelection_kept {D : List (Span L)} (hD : ∀ d ∈ D, d.start ≤ d.stop) :
    IsSelection D (kept D) := by
  have hs : ∀ s ∈ sorted D, s.start ≤ s.stop := fun s h => hD s (mem_sorted.mp h)
  refine ⟨fun k hk => mem_of_mem_kept hk,
    select_pairwise (sorted_pairwise D) hs 0,
    fun k hk d hd he => select_longest (sorted_pairwise D) hs hk (mem_sorted.mpr hd) he,
    fun d hd => ?_, fun k hk hlt => ?_⟩
  · rcases select_dominates (sorted_pairwise D) (mem_sorted.mpr hd) 0 with h | h | h
    · exact .inl h
    · exact absurd h (Nat.not_lt_zero _)
    · exact .inr h
  · rw [← find?_sorted]
    exact find?_of_mem_select (sorted_pairwise D) hs hk hlt

namespace IsSelection

variable {D K : List (Span L)}

theorem stop_le_start (h : IsSelection D K) {a b : Span L} (ha : a ∈ K) (hb : b ∈ K)
    (hlt : a.start < b.start) (hb' : b.start ≤ b.stop) : a.stop ≤ b.start := by
  obtain ⟨i, hi, rfl⟩ := List.mem_iff_getElem.mp ha
  obtain ⟨j, hj, rfl⟩ := List.mem_iff_getElem.mp hb
  rcases Nat.lt_trichotomy i j with hij | rfl | hij
  · exact List.pairwise_iff_getElem.mp h.disjoint i j hi hj hij
  · omega
  · have := List.pairwise_iff_getElem.mp h.disjoint j i hj hi hij
    omega

/-- A member of a tiling has the extent of a span that is kept. -/
theorem exists_of_tile (h : IsSelection D K) (hD : ∀ d ∈ D, d.start ≤ d.stop)
    {T : List (Span L)} (hsub : ∀ t ∈ T, t ∈ D)
    (hdis : ∀ a ∈ T, ∀ b ∈ T, a.start < b.start → a.stop ≤ b.start)
    (hlong : ∀ t ∈ T, ∀ d ∈ D, d.start = t.start → d.len ≤ t.len)
    (hcov : ∀ p, Covered D p → Covered T p) (n : Nat) :
    ∀ t ∈ T, t.start = n → ∃ k ∈ K, k.start = t.start ∧ k.stop = t.stop := by
  have extent : ∀ t ∈ T, ∀ k ∈ K, k.start = t.start → k.stop = t.stop := by
    intro t ht k hk he
    have h₁ := hlong t ht k (h.sub k hk) he
    have h₂ := h.longest k hk t (hsub t ht) he.symm
    have := hD t (hsub t ht)
    have := hD k (h.sub k hk)
    unfold len at h₁ h₂
    omega
  -- on the start of the tile: the tiles before it have the extent of spans that are kept
  induction n using Nat.strong_induction_on with
  | _ n ih =>
      rintro t ht rfl
      rcases h.dominates t (hsub t ht) with htK | ⟨k, hk, hks, hke⟩
      · exact ⟨t, htK, rfl, rfl⟩
      · rcases Nat.eq_or_lt_of_le hks with he | hlt
        · exact ⟨k, hk, he, extent t ht k hk he⟩
        · -- `k` starts before `t`; the tile over its start is kept, and reaches as far as `k`
          obtain ⟨t', ht', h₁, h₂⟩ := hcov k.start ⟨k, h.sub k hk, Nat.le_refl _, by omega⟩
          have hdis' := hdis t' ht' t ht (by omega)
          obtain ⟨k', hk', he₁, he₂⟩ := ih t'.start (by omega) t' ht' rfl
          rcases Nat.eq_or_lt_of_le h₁ with he | hlt'
          · have := extent t' ht' k hk he.symm
            omega
          · have := h.stop_le_start hk' hk (by omega) (hD k (h.sub k hk))
            omega

/-- **Coverage.**  What is kept covers all that was detected exactly when it can be tiled. -/
theorem covers_iff_tiled (h : IsSelection D K) (hD : ∀ d ∈ D, d.start ≤ d.stop) :
    (∀ p, Covered D p → Covered K p) ↔ Tiled D := by
  constructor
  · intro hc
    exact ⟨K, h.sub, fun a ha b hb hlt => h.stop_le_start ha hb hlt (hD b (h.sub b hb)),
      h.longest, hc⟩
  · rintro ⟨T, hsub, hdis, hlong, hcov⟩ p hp
    obtain ⟨t, ht, h₁, h₂⟩ := hcov p hp
    obtain ⟨k, hk, he₁, he₂⟩ := h.exists_of_tile hD hsub hdis hlong hcov t.start t ht rfl
    exact ⟨k, hk, by omega, by omega⟩

/-- Of two selections, one keeps what the other does. -/
theorem mem_of_mem {K' : List (Span L)} (h : IsSelection D K) (h' : IsSelection D K')
    (hD : ∀ d ∈ D, d.start < d.stop) (n : Nat) :
    ∀ k, k.start = n → (k ∈ K ↔ k ∈ K') := by
  induction n using Nat.strong_induction_on with
  | _ n ih =>
      -- a span kept on one side and dominated on the other would meet an earlier one kept on both
      have one : ∀ {K K' : List (Span L)}, IsSelection D K → IsSelection D K' →
          (∀ k, k.start < n → (k ∈ K ↔ k ∈ K')) → ∀ k, k.start = n → k ∈ K → k ∈ K' := by
        rintro K K' h h' ih k rfl hk
        rcases h'.dominates k (h.sub k hk) with hk' | ⟨k', hk', hs, he⟩
        · exact hk'
        · rcases Nat.eq_or_lt_of_le hs with heq | hlt
          · have h₁ := h.longest k hk k' (h'.sub k' hk') heq
            have h₂ := h'.longest k' hk' k (h.sub k hk) heq.symm
            have g₁ := hD k (h.sub k hk)
            have g₂ := hD k' (h'.sub k' hk')
            have hstop : k'.stop = k.stop := by unfold len at h₁ h₂; omega
            have hsame : k.sameExtent = k'.sameExtent := by
              funext d
              simp only [sameExtent, heq, hstop]
            have f₁ := h.first k hk g₁
            rw [hsame, h'.first k' hk' g₂] at f₁
            exact Option.some.inj f₁ ▸ hk'
          · have := h.stop_le_start ((ih k' hlt).mpr hk') hk hlt (Nat.le_of_lt (hD k (h.sub k hk)))
            omega
      rintro k rfl
      exact ⟨one h h' (fun k hk => ih _ hk k rfl) k rfl,
        one h' h (fun k hk => (ih _ hk k rfl).symm) k rfl⟩

/-- **There is one selection of spans that are not empty.** -/
theorem eq_kept (h : IsSelection D K) (hD : ∀ d ∈ D, d.start < d.stop) : K = kept D := by
  have h' := isSelection_kept fun d hd => Nat.le_of_lt (hD d hd)
  have strict : ∀ {K : List (Span L)}, IsSelection D K →
      K.Pairwise fun a b => a.start < b.start := fun h =>
    h.disjoint.imp_of_mem fun {a b} ha _ hab =>
      Nat.lt_of_lt_of_le (hD a (h.sub a ha)) hab
  have nodup : ∀ {K : List (Span L)}, IsSelection D K → K.Nodup := fun h =>
    (strict h).imp fun hlt he => by rw [he] at hlt; exact Nat.lt_irrefl _ hlt
  -- both are sorted by their starts, so the same members make the same list
  have perm : K.Perm (kept D) := (List.perm_ext_iff_of_nodup (nodup h) (nodup h')).mpr fun k =>
    h.mem_of_mem h' hD k.start k rfl
  exact perm.eq_of_pairwise (fun a b _ _ h₁ h₂ => absurd h₁ (Nat.lt_asymm h₂)) (strict h)
    (strict h')

end IsSelection

/-! ### Masking -/

end Span

/-- A piece of a masked text: a stretch of the original, or a mask. -/
inductive Piece (L : Type*) where
  | copy (start stop : Nat)
  | mask (label : L)
deriving DecidableEq

namespace Piece

/-- `q` carries position `p` of the original over. -/
def Copies (p : Nat) : Piece L → Prop
  | copy i j => i ≤ p ∧ p < j
  | mask _ => False

variable {α : Type*}

/-- The text of a piece. -/
def render (text : List α) (ph : L → List α) : Piece L → List α
  | copy i j => (text.take j).drop i
  | mask l => ph l

end Piece

namespace Span

/-- A text of length `n`, from cursor `c` on, with the spans of `K` masked. -/
def fill (n : Nat) : Nat → List (Span L) → List (Piece L)
  | c, [] => [.copy c n]
  | c, k :: K => .copy c k.start :: .mask k.label :: fill n k.stop K

/-- The spans of `K` follow one another from `c` to at most `n`. -/
def Chain (n : Nat) : Nat → List (Span L) → Prop
  | c, [] => c ≤ n
  | c, k :: K => c ≤ k.start ∧ k.start ≤ k.stop ∧ Chain n k.stop K

theorem Chain.le {n : Nat} : ∀ {K : List (Span L)} {c : Nat}, Chain n c K → c ≤ n
  | [], _, h => h
  | k :: K, c, ⟨h₁, h₂, h⟩ => by have := Chain.le h; omega

theorem Chain.le_start {n : Nat} : ∀ {K : List (Span L)} {c : Nat}, Chain n c K →
    ∀ k ∈ K, c ≤ k.start ∧ k.stop ≤ n
  | k' :: K, c, ⟨h₁, h₂, h⟩, k, hk => by
      rcases List.mem_cons.mp hk with rfl | hk
      · exact ⟨h₁, h.le⟩
      · have := Chain.le_start h k hk
        omega

theorem chain_select {n : Nat} : ∀ {l : List (Span L)} {c : Nat},
    (∀ s ∈ l, s.start ≤ s.stop ∧ s.stop ≤ n) → c ≤ n → Chain n c (select c l)
  | [], _, _, hc => hc
  | s :: l, c, hs, hc => by
      have hs' : ∀ s ∈ l, s.start ≤ s.stop ∧ s.stop ≤ n :=
        fun s h => hs s (List.mem_cons_of_mem _ h)
      have h := hs s List.mem_cons_self
      simp only [select]
      split
      · exact chain_select hs' hc
      · exact ⟨by omega, h.1, chain_select hs' h.2⟩

theorem chain_kept {n : Nat} {D : List (Span L)}
    (h : ∀ d ∈ D, d.start ≤ d.stop ∧ d.stop ≤ n) : Chain n 0 (kept D) :=
  chain_select (fun s hs => h s (mem_sorted.mp hs)) (Nat.zero_le _)

/-- Chains in two texts, one after the other. -/
theorem chain_append {m n : Nat} {K₁ K₂ : List (Span L)} {c : Nat} (h₁ : Chain m c K₁)
    (h₂ : Chain n 0 K₂) : Chain (m + n) c (K₁ ++ K₂.map (shift m)) := by
  have shifted : ∀ {K : List (Span L)} {d : Nat}, Chain n d K →
      Chain (m + n) (m + d) (K.map (shift m)) := by
    intro K
    induction K with
    | nil => intro d h; simp only [List.map_nil, Chain] at h ⊢; omega
    | cons k K ih =>
        rintro d ⟨g₁, g₂, g⟩
        exact ⟨Nat.add_le_add_left g₁ m, Nat.add_le_add_left g₂ m, ih g⟩
  have weaken : ∀ {K : List (Span L)} {d d' : Nat}, d ≤ d' → Chain (m + n) d' K →
      Chain (m + n) d K := by
    intro K d d' hd h
    cases K with
    | nil => exact Nat.le_trans hd h
    | cons k K => exact ⟨Nat.le_trans hd h.1, h.2⟩
  induction K₁ generalizing c with
  | nil => exact weaken h₁ (shifted h₂)
  | cons k K₁ ih => exact ⟨h₁.1, h₁.2.1, ih h₁.2.2⟩

theorem not_covered_nil {p : Nat} : ¬ Covered ([] : List (Span L)) p := by
  simp [Covered]

theorem covered_cons {k : Span L} {K : List (Span L)} {p : Nat} :
    Covered (k :: K) p ↔ k.Covers p ∨ Covered K p := by
  simp [Covered]

/-- No span covers a position before the cursor. -/
theorem Chain.not_covered_of_lt {n c p : Nat} {K : List (Span L)} (h : Chain n c K) (hp : p < c) :
    ¬ Covered K p := by
  rintro ⟨k, hk, hcov⟩
  obtain ⟨hc, -⟩ := h.le_start k hk
  exact absurd hcov.1 (by omega)

/-- No position before the cursor is copied. -/
theorem Chain.not_copies_of_lt {n p : Nat} : ∀ {K : List (Span L)} {c : Nat}, Chain n c K → p < c →
    ¬ ∃ q ∈ fill n c K, q.Copies p
  | [], c, _, hp => by
      simp only [fill, List.mem_singleton, exists_eq_left, Piece.Copies]
      omega
  | k :: K, c, ⟨h₁, h₂, h⟩, hp => by
      simp only [fill, List.mem_cons, exists_eq_or_imp, Piece.Copies, false_or, not_or]
      exact ⟨by omega, h.not_copies_of_lt (by omega)⟩

/-- **What is copied.**  A position is copied exactly when no kept span covers it. -/
theorem copies_fill_iff {n p : Nat} : ∀ {K : List (Span L)} {c : Nat}, Chain n c K → c ≤ p → p < n →
    ((∃ q ∈ fill n c K, q.Copies p) ↔ ¬ Covered K p)
  | [], c, _, hp, hn => by
      simp [fill, Piece.Copies, not_covered_nil, hp, hn]
  | k :: K, c, ⟨h₁, h₂, h⟩, hp, hn => by
      have hfill : (∃ q ∈ fill n c (k :: K), q.Copies p) ↔
          p < k.start ∨ ∃ q ∈ fill n k.stop K, q.Copies p := by
        simp [fill, Piece.Copies, hp]
      rw [covered_cons, hfill]
      by_cases hlt : p < k.start
      · have hk : ¬ k.Covers p := fun h' => by have := h'.1; omega
        have hK : ¬ Covered K p := h.not_covered_of_lt (by omega)
        exact iff_of_true (.inl hlt) (not_or.mpr ⟨hk, hK⟩)
      · rw [or_iff_right hlt]
        by_cases hge : k.stop ≤ p
        · have hk : ¬ k.Covers p := fun h' => by have := h'.2; omega
          rw [or_iff_right hk]
          exact copies_fill_iff h hge hn
        · -- `p` is inside `k`, and the rest starts after it
          have hk : k.Covers p := ⟨by omega, by omega⟩
          exact iff_of_false (h.not_copies_of_lt (by omega)) (not_not_intro (.inl hk))

section Out

variable {α : Type*} (ph : L → List α)

/-- The masked text, from cursor `c` on. -/
def out (text : List α) (c : Nat) (K : List (Span L)) : List α :=
  (fill text.length c K).flatMap (Piece.render text ph)

variable {text : List α}

theorem out_nil (c : Nat) : out ph text c [] = text.drop c := by
  simp [out, fill, Piece.render]

theorem out_cons (c : Nat) (k : Span L) (K : List (Span L)) :
    out ph text c (k :: K) =
      (text.take k.start).drop c ++ (ph k.label ++ out ph text k.stop K) := by
  simp [out, fill, Piece.render]

/-- The text from `c` on, cut at `s`. -/
theorem drop_eq_append (text : List α) {c s : Nat} (h : c ≤ s) :
    text.drop c = (text.take s).drop c ++ text.drop s := by
  conv_lhs => rw [← List.take_append_drop s text]
  rcases Nat.lt_or_ge text.length s with hl | hl
  · rw [List.drop_append, List.length_take, Nat.min_eq_right (by omega)]
    rw [List.drop_eq_nil_of_le (by omega : text.length ≤ s)]
    simp
  · rw [List.drop_append_of_le_length (by simp; omega)]

theorem take_drop_eq_append {c s s' : Nat} (h : c ≤ s) (h' : s ≤ s') :
    (text.take s').drop c = (text.take s).drop c ++ (text.take s').drop s := by
  have := drop_eq_append (text.take s') h
  rwa [List.take_take, Nat.min_eq_left h'] at this

/-- The stretches of the text between the spans of `K`, from cursor `c` on. -/
def gaps (text : List α) : Nat → List (Span L) → List (List α)
  | c, [] => [text.drop c]
  | c, k :: K => (text.take k.start).drop c :: gaps text k.stop K

/-! ### Masking two texts one after the other -/

theorem out_shift (u v : List α) (c : Nat) (K : List (Span L)) :
    out ph (u ++ v) (u.length + c) (K.map (shift u.length)) = out ph v c K := by
  induction K generalizing c with
  | nil => rw [List.map_nil, out_nil, out_nil, List.drop_length_add_append]
  | cons k K ih =>
      rw [List.map_cons, out_cons, out_cons]
      simp only [shift]
      rw [List.take_length_add_append, List.drop_length_add_append, ih]

theorem out_append {u v : List α} {c : Nat} {K₁ : List (Span L)} (h : Chain u.length c K₁)
    (K₂ : List (Span L)) :
    out ph (u ++ v) c (K₁ ++ K₂.map (shift u.length)) = out ph u c K₁ ++ out ph v 0 K₂ := by
  induction K₁ generalizing c with
  | nil =>
      have hc : c ≤ u.length := h
      have hv := out_shift ph u v 0 K₂
      rw [Nat.add_zero] at hv
      rw [List.nil_append, out_nil, ← hv]
      -- the seam lies in a copied stretch: the rest of `u`, and the start of `v`
      cases K₂ with
      | nil =>
          rw [List.map_nil, out_nil, out_nil, List.drop_append_of_le_length hc, List.drop_left]
      | cons k K₂ =>
          rw [List.map_cons, out_cons, out_cons]
          simp only [shift]
          rw [List.take_length_add_append, List.drop_append_of_le_length hc, List.drop_left,
            List.append_assoc]
  | cons k K₁ ih =>
      obtain ⟨h₁, h₂, h⟩ := h
      have hk : k.start ≤ u.length := Nat.le_trans h₂ h.le
      rw [List.cons_append, out_cons, out_cons, ih h, List.take_append_of_le_length hk]
      simp only [List.append_assoc]

/-! ### What the masked text tells -/

/-- A text is changed by masking, where the first mask starts with a sign the text does not have
there. -/
theorem out_ne_self {o : α} {k : Span L} {K : List (Span L)} (hph : ∃ t, ph k.label = o :: t)
    (hk : k.start ≤ text.length) (hs : text[k.start]? ≠ some o) :
    out ph text 0 (k :: K) ≠ text := by
  intro h
  obtain ⟨t, ht⟩ := hph
  have head := congrArg (fun l => l[k.start]?) h
  simp only [out_cons, List.drop_zero, ht] at head
  rw [List.getElem?_append_right (by simp), List.length_take, Nat.min_eq_left hk,
    Nat.sub_self] at head
  exact hs head.symm

/-- A mask starts with the sign `o`, which no kept span of the text starts with, and no mask of a
label in `Ls` is the start of another. -/
structure Signed (ph : L → List α) (o : α) (Ls : List L) (text : List α) (K : List (Span L)) :
    Prop where
  head : ∀ l, ∃ t, ph l = o :: t
  code : ∀ l ∈ Ls, ∀ l' ∈ Ls, ∀ u v, ph l ++ u = ph l' ++ v → l = l'
  start : ∀ k ∈ K, ∃ a, text[k.start]? = some a ∧ a ≠ o
  label : ∀ k ∈ K, k.label ∈ Ls

variable {ph}

theorem Signed.tail {o : α} {Ls : List L} {k : Span L} {K : List (Span L)}
    (h : Signed ph o Ls text (k :: K)) : Signed ph o Ls text K :=
  ⟨h.head, h.code, fun s hs => h.start s (List.mem_cons_of_mem _ hs),
    fun s hs => h.label s (List.mem_cons_of_mem _ hs)⟩

/-- Copied text that reaches the start of a kept span is not a mask. -/
theorem drop_ne_mask {o : α} {Ls : List L} {K : List (Span L)} (hK : Signed ph o Ls text K)
    {k : Span L} (hk : k ∈ K) {n : Nat} (hn : k.start < n) (l : L) (u v : List α) :
    (text.take n).drop k.start ++ v ≠ ph l ++ u := by
  intro h
  obtain ⟨a, ha, hne⟩ := hK.start k hk
  obtain ⟨t, ht⟩ := hK.head l
  have hg : ((text.take n).drop k.start)[0]? = some a := by
    rw [List.getElem?_drop, Nat.add_zero, List.getElem?_take_of_lt hn, ha]
  -- the left side starts with `a`, and the right side with `o`
  have h0 := congrArg (fun l => l[0]?) h
  simp only [ht, List.cons_append, List.getElem?_cons_zero] at h0
  cases hd : (text.take n).drop k.start with
  | nil => rw [hd] at hg; cases hg
  | cons b r =>
      rw [hd] at hg h0
      simp only [List.cons_append, List.getElem?_cons_zero] at hg h0
      exact hne ((Option.some.inj hg).symm.trans (Option.some.inj h0))

/-- **The masked text determines the kept spans**, when the start and the label of a span determine
its end. -/
theorem out_injective {o : α} {Ls : List L} {K₁ K₂ : List (Span L)} {c : Nat}
    (hc₁ : Chain text.length c K₁) (hc₂ : Chain text.length c K₂)
    (h₁ : Signed ph o Ls text K₁) (h₂ : Signed ph o Ls text K₂)
    (hstop : ∀ k₁ ∈ K₁, ∀ k₂ ∈ K₂, k₁.start = k₂.start → k₁.label = k₂.label → k₁.stop = k₂.stop)
    (h : out ph text c K₁ = out ph text c K₂) : K₁ = K₂ := by
  -- copying all of the rest differs from masking a span of it
  have rest : ∀ {K : List (Span L)} {c : Nat} {k : Span L}, Signed ph o Ls text (k :: K) →
      c ≤ k.start → out ph text c [] ≠ out ph text c (k :: K) := by
    intro K c k hK hle he
    obtain ⟨a, ha, -⟩ := hK.start k List.mem_cons_self
    have hlt : k.start < text.length := (List.getElem?_eq_some_iff.mp ha).1
    rw [out_nil, out_cons, drop_eq_append text hle, List.append_cancel_left_eq] at he
    refine drop_ne_mask hK List.mem_cons_self hlt k.label (out ph text k.stop K) [] ?_
    rw [List.take_length, List.append_nil, he]
  -- a span that starts first differs from copying past its start
  have first : ∀ {K K' : List (Span L)} {c : Nat} {k k' : Span L}, Signed ph o Ls text (k :: K) →
      c ≤ k.start → k.start < k'.start → out ph text c (k :: K) ≠ out ph text c (k' :: K') := by
    intro K K' c k k' hK hle hlt he
    rw [out_cons, out_cons, take_drop_eq_append hle (Nat.le_of_lt hlt), List.append_assoc,
      List.append_cancel_left_eq] at he
    exact drop_ne_mask hK List.mem_cons_self hlt _ _ _ he.symm
  induction K₁ generalizing c K₂ with
  | nil =>
      cases K₂ with
      | nil => rfl
      | cons k₂ K₂ => exact absurd h (rest h₂ hc₂.1)
  | cons k₁ K₁ ih =>
      cases K₂ with
      | nil => exact absurd h.symm (rest h₁ hc₁.1)
      | cons k₂ K₂ =>
          -- both copy the text up to the nearer of their first spans
          rcases Nat.lt_trichotomy k₁.start k₂.start with hlt | he | hlt
          · exact absurd h (first h₁ hc₁.1 hlt)
          · have htail := h
            rw [out_cons, out_cons, he, List.append_cancel_left_eq] at htail
            have hl := h₁.code _ (h₁.label k₁ List.mem_cons_self) _
              (h₂.label k₂ List.mem_cons_self) _ _ htail
            have hs := hstop k₁ List.mem_cons_self k₂ List.mem_cons_self he hl
            rw [hl, hs, List.append_cancel_left_eq] at htail
            have hk : k₁ = k₂ := by
              cases k₁; cases k₂; simp only at he hl hs; rw [he, hl, hs]
            rw [hk, ih (hs ▸ hc₁.2.2) hc₂.2.2 h₁.tail h₂.tail
              (fun a ha b hb => hstop a (List.mem_cons_of_mem _ ha) b (List.mem_cons_of_mem _ hb))
              htail]
          · exact absurd h.symm (first h₂ hc₂.1 hlt)

end Out

end Span

end Support

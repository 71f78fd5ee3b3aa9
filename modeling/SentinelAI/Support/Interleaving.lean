import SentinelAI.Support.Spans

/-!
# Support — Interleaving

A masked text as one sequence: the positions of the original that are copied, one by one, and the
spans that are masked, each as a whole.

* `out_eq_flatMap`: the masked text is this sequence, written out.
* `positions_items`: the positions are those that no masked span covers, in order.
* `covers_of_mem_discarded`: a span that is passed over starts inside one that is kept.
-/

namespace Support
namespace Span

variable {L : Type*} {n c p : Nat} {K : List (Span L)}

instance (k : Span L) (p : Nat) : Decidable (k.Covers p) :=
  inferInstanceAs (Decidable (_ ∧ _))

instance (K : List (Span L)) (p : Nat) : Decidable (Covered K p) :=
  inferInstanceAs (Decidable (∃ k ∈ K, k.Covers p))

/-- A position that is copied, or a span that is masked. -/
inductive Item (L : Type*) where
  | position (p : Nat)
  | masked (k : Span L)

namespace Item

def start : Item L → Nat
  | position p => p
  | masked k => k.start

def stop : Item L → Nat
  | position p => p + 1
  | masked k => k.stop

def position? : Item L → Option Nat
  | position p => some p
  | masked _ => none

def masked? : Item L → Option (Span L)
  | position _ => none
  | masked k => some k

def render {α : Type*} (text : List α) (ph : L → List α) : Item L → List α
  | position p => text[p]?.toList
  | masked k => ph k.label

end Item

/-- The positions from `i` to `j`. -/
def between (i j : Nat) : List Nat := List.range' i (j - i)

/-- A text of length `n`, from cursor `c` on, with the spans of `K` masked. -/
def items (n : Nat) : Nat → List (Span L) → List (Item L)
  | c, [] => (between c n).map .position
  | c, k :: K => (between c k.start).map .position ++ .masked k :: items n k.stop K

@[simp] theorem mem_between {i j : Nat} : p ∈ between i j ↔ i ≤ p ∧ p < j := by
  rw [between, List.mem_range'_1]
  omega

theorem between_append {i j k : Nat} (h : i ≤ j) (h' : j ≤ k) :
    between i k = between i j ++ between j k := by
  obtain ⟨a, rfl⟩ := Nat.exists_eq_add_of_le h
  obtain ⟨b, rfl⟩ := Nat.exists_eq_add_of_le h'
  unfold between
  rw [Nat.add_sub_cancel_left, Nat.add_sub_cancel_left, Nat.add_assoc, Nat.add_sub_cancel_left,
    ← List.range'_append_1]

/-! ### The text -/

section Text
variable {α : Type*} (ph : L → List α) {text : List α}

theorem take_drop_eq_flatMap {i j : Nat} (h : i ≤ j) (hj : j ≤ text.length) :
    (text.take j).drop i = (between i j).flatMap fun p => text[p]?.toList := by
  induction j, h using Nat.le_induction with
  | base => simp [between]
  | succ j h ih =>
      have short : i ≤ (text.take j).length := by
        rw [List.length_take]
        omega
      have step : between j (j + 1) = [j] := by simp [between]
      rw [List.take_add_one, List.drop_append_of_le_length short, ih (by omega),
        between_append h (Nat.le_succ j), List.flatMap_append, step, List.flatMap_singleton]

/-- **The masked text** is what is copied and masked, one after the other. -/
theorem out_eq_flatMap (h : Chain text.length c K) :
    out ph text c K = (items text.length c K).flatMap (Item.render text ph) := by
  have copied (i j : Nat) : ((between i j).map Item.position).flatMap (Item.render text ph) =
      (between i j).flatMap fun p => text[p]?.toList := by
    rw [List.flatMap_map]
    rfl
  induction K generalizing c with
  | nil =>
      rw [out_nil, items, copied, ← take_drop_eq_flatMap h le_rfl, List.take_length]
  | cons k K ih =>
      obtain ⟨hc, hk, h⟩ := h
      rw [out_cons, items, List.flatMap_append, List.flatMap_cons, copied, ih h,
        take_drop_eq_flatMap hc (hk.trans h.le)]
      rfl

end Text

/-! ### What is copied, and what is masked -/

theorem masked_items : (items n c K).filterMap Item.masked? = K := by
  have none (l : List Nat) : (l.map (Item.position (L := L))).filterMap Item.masked? = [] := by
    rw [List.filterMap_map]
    exact List.filterMap_eq_nil_iff.mpr fun _ _ => rfl
  induction K generalizing c with
  | nil => exact none _
  | cons k K ih =>
      rw [items, List.filterMap_append, none, List.nil_append]
      exact congrArg (k :: ·) ih

/-- **The positions that are copied** are those that no masked span covers, in order. -/
theorem positions_items (h : Chain n c K) : (items n c K).filterMap Item.position? =
    (between c n).filter fun p => ¬Covered K p := by
  have all (l : List Nat) : (l.map (Item.position (L := L))).filterMap Item.position? = l := by
    rw [List.filterMap_map]
    exact List.filterMap_some
  induction K generalizing c with
  | nil =>
      rw [items, all]
      exact (List.filter_eq_self.mpr fun p _ => decide_eq_true not_covered_nil).symm
  | cons k K ih =>
      obtain ⟨hc, hk, h⟩ := h
      have chain : Chain n k.start (k :: K) := ⟨le_rfl, hk, h⟩
      have before : (between c k.start).filter (fun p => ¬Covered (k :: K) p) =
          between c k.start := by
        refine List.filter_eq_self.mpr fun p hp => decide_eq_true ?_
        exact chain.not_covered_of_lt (mem_between.mp hp).2
      have inside : (between k.start k.stop).filter (fun p => ¬Covered (k :: K) p) = [] := by
        refine List.filter_eq_nil_iff.mpr fun p hp => ?_
        simpa using ⟨k, List.mem_cons_self, mem_between.mp hp⟩
      have after : (between k.stop n).filter (fun p => ¬Covered (k :: K) p) =
          (between k.stop n).filter fun p => ¬Covered K p := by
        refine List.filter_congr fun p hp => decide_eq_decide.mpr (not_congr ?_)
        obtain ⟨hle, -⟩ := mem_between.mp hp
        rw [covered_cons]
        exact or_iff_right fun hcov => absurd hcov.2 (by omega)
      rw [items, List.filterMap_append, all, List.filterMap_cons, ih h,
        between_append hc (hk.trans h.le), between_append hk h.le, List.filter_append,
        List.filter_append, before, inside, after]
      rfl

/-- What is copied and masked comes in the order of the text, each past the end of the last. -/
theorem items_pairwise (h : Chain n c K) :
    (items n c K).Pairwise fun a b => a.stop ≤ b.start := by
  have copied (i j : Nat) : ((between i j).map (Item.position (L := L))).Pairwise
      fun a b => a.stop ≤ b.start := by
    rw [List.pairwise_map]
    exact List.pairwise_lt_range'
  have from_ : ∀ {K : List (Span L)} {c : Nat}, Chain n c K → ∀ a ∈ items n c K, c ≤ a.start := by
    intro K
    induction K with
    | nil =>
        intro c _ a ha
        obtain ⟨p, hp, rfl⟩ := List.mem_map.mp ha
        exact (mem_between.mp hp).1
    | cons k K ih =>
        rintro c ⟨hc, hk, h⟩ a ha
        rcases List.mem_append.mp ha with ha | ha
        · obtain ⟨p, hp, rfl⟩ := List.mem_map.mp ha
          exact (mem_between.mp hp).1
        · rcases List.mem_cons.mp ha with rfl | ha
          · exact hc
          · exact (hc.trans hk).trans (ih h a ha)
  induction K generalizing c with
  | nil => exact copied c n
  | cons k K ih =>
      obtain ⟨hc, hk, h⟩ := h
      refine List.pairwise_append.mpr ⟨copied c k.start, List.pairwise_cons.mpr
        ⟨from_ h, ih h⟩, fun a ha b hb => ?_⟩
      obtain ⟨p, hp, rfl⟩ := List.mem_map.mp ha
      have ends : p + 1 ≤ k.start := (mem_between.mp hp).2
      rcases List.mem_cons.mp hb with rfl | hb
      · exact ends
      · exact ends.trans (hk.trans (from_ h b hb))

/-! ### What is passed over -/

/-- Of the spans that start at one place, the longest comes before the others. -/
theorem Before.longest {a b : Span L} (h : a.Before b) :
    a.start ≤ b.start ∧ (a.start = b.start → b.len ≤ a.len) := by
  unfold Before at h
  omega

/-- The spans that `select` passes over. -/
def discarded : Nat → List (Span L) → List (Span L)
  | _, [] => []
  | c, s :: l => if s.start < c then s :: discarded c l else discarded s.stop l

theorem select_append_discarded (c : Nat) (l : List (Span L)) :
    (select c l ++ discarded c l).Perm l := by
  induction l generalizing c with
  | nil => exact .nil
  | cons s l ih =>
      unfold select discarded
      split
      · exact List.perm_middle.trans ((ih c).cons s)
      · exact (ih s.stop).cons s

/-- **What is passed over** starts inside a span that is kept, or before the cursor. -/
theorem covers_of_mem_discarded {l : List (Span L)} (hl : l.Pairwise Before) {d : Span L}
    (hd : d ∈ discarded c l) : d.start < c ∨ ∃ k ∈ select c l, k.Covers d.start := by
  induction l generalizing c with
  | nil => cases hd
  | cons s l ih =>
      obtain ⟨hsl, hl⟩ := List.pairwise_cons.mp hl
      unfold discarded at hd
      unfold select
      split at hd
      · rename_i hs
        rw [if_pos hs]
        rcases List.mem_cons.mp hd with rfl | hd
        · exact .inl hs
        · exact ih hl hd
      · rename_i hs
        rw [if_neg hs]
        rcases ih hl hd with hlt | ⟨k, hk, hcov⟩
        · -- `d` comes after `s` in the order, and starts before the end of `s`
          have order : s.Before d := hsl d ((select_append_discarded s.stop l).mem_iff.mp
            (List.mem_append_right _ hd))
          exact .inr ⟨s, List.mem_cons_self, order.longest.1, hlt⟩
        · exact .inr ⟨k, List.mem_cons_of_mem _ hk, hcov⟩

end Span
end Support

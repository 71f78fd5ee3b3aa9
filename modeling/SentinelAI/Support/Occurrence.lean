import SentinelAI.Support.Spans
import SentinelAI.Support.Text

/-!
# Support — Occurrence

Whether a word occurs in a text of which parts have been replaced.  A word that shares no position
with what is put in, wherever the two stand, occurs in the result only where it occurred between the
replacements.

* `Apart.infix_append_iff`: an occurrence lies before or after a part that is apart from the word.
* `not_infix_replaceFrom`, `not_infix_replaceFrom_self`: `str.replace` makes no new occurrence of a
  word, and leaves none of the word it replaces.
* `Span.infix_out_iff`: a word occurs in a masked text when it occurs between the masks, and
  `Span.infix_out_iff_occursAt`: when an occurrence in the text meets none of the masked spans.
-/

namespace Support

section Apart

variable {α : Type*}

/-- `w` and `p` share no position, wherever they stand in a text. -/
structure Apart (w p : List α) : Prop where
  not_within : ¬w <:+: p
  not_around : ¬p <:+: w
  not_before : ∀ x, x ≠ [] → x <:+ w → ¬x <+: p
  not_after : ∀ x, x ≠ [] → x <+: w → ¬x <:+ p

variable {w p a b : List α}

theorem Apart.ne_nil (h : Apart w p) : w ≠ [] := by
  rintro rfl
  exact h.not_within List.nil_infix

/-- **An occurrence of `w` beside `p`** lies before it or after it. -/
theorem Apart.infix_append_iff (h : Apart w p) : w <:+: a ++ (p ++ b) ↔ w <:+: a ∨ w <:+: b := by
  constructor
  · rintro ⟨u, v, e⟩
    rw [List.append_assoc] at e
    rcases List.append_eq_append_iff.mp e with ⟨x, ha, e₁⟩ | ⟨x, -, e₁⟩
    · -- `w` starts before `p`
      rcases List.append_eq_append_iff.mp e₁ with ⟨y, hx, -⟩ | ⟨y, hw, e₂⟩
      · exact .inl ⟨u, y, by rw [ha, hx, List.append_assoc]⟩
      · by_cases hy : y = []
        · exact .inl ⟨u, [], by rw [ha, hw, hy, List.append_nil, List.append_nil]⟩
        · rcases List.append_eq_append_iff.mp e₂ with ⟨z, hz, -⟩ | ⟨z, hz, -⟩
          · exact absurd ⟨x, z, by rw [hw, hz, List.append_assoc]⟩ h.not_around
          · exact absurd ⟨z, hz.symm⟩ (h.not_before y hy ⟨x, hw.symm⟩)
    · -- `w` starts in `p` or after it
      rcases List.append_eq_append_iff.mp e₁ with ⟨y, -, e₂⟩ | ⟨y, hp, e₂⟩
      · exact .inr ⟨y, v, by rw [e₂, List.append_assoc]⟩
      · by_cases hy : y = []
        · exact .inr ⟨[], v, by rw [List.nil_append, e₂, hy, List.nil_append]⟩
        · rcases List.append_eq_append_iff.mp e₂ with ⟨z, hz, -⟩ | ⟨z, hz, -⟩
          · exact absurd ⟨x, z, by rw [hp, hz, List.append_assoc]⟩ h.not_within
          · exact absurd ⟨x, hp.symm⟩ (h.not_after y hy ⟨z, hz.symm⟩)
  · rintro (⟨u, v, rfl⟩ | ⟨u, v, rfl⟩)
    · exact ⟨u, v ++ (p ++ b), by simp only [List.append_assoc]⟩
    · exact ⟨a ++ (p ++ u), v, by simp only [List.append_assoc]⟩

/-- A word without the signs that a mask starts and ends with is apart from it, where the mask does
not have it inside. -/
theorem apart_of_signs {o c : α} {t : List α} (hw : w ≠ []) (ho : o ∉ w) (hc : c ∉ w)
    (ht : ¬w <:+: t) : Apart w (o :: (t ++ [c])) where
  not_within h := by
    have hn : ¬w <+: o :: (t ++ [c]) := fun hp => by
      cases w with
      | nil => exact hw rfl
      | cons x w => exact ho (List.mem_cons.mpr (.inl (List.cons_prefix_cons.mp hp).1.symm))
    obtain ⟨u, v, e⟩ := (List.infix_cons_iff.mp h).resolve_left hn
    -- the occurrence does not reach the last sign
    rcases List.eq_nil_or_concat v with rfl | ⟨v, x, rfl⟩
    · rw [List.append_nil] at e
      obtain ⟨w', x, rfl⟩ := (List.eq_nil_or_concat w).resolve_left hw
      rw [List.concat_eq_append, ← List.append_assoc] at e
      have hx := List.append_inj_right' e rfl
      rw [List.cons.injEq] at hx
      exact hc (by simp [hx.1])
    · rw [List.concat_eq_append, ← List.append_assoc] at e
      exact ht ⟨u, v, List.append_inj_left' e rfl⟩
  not_around h := ho (h.subset List.mem_cons_self)
  not_before x hx hs hp := by
    cases x with
    | nil => exact hx rfl
    | cons y x =>
        have hy : y = o := (List.cons_prefix_cons.mp hp).1
        exact ho (hs.subset (hy ▸ List.mem_cons_self))
  not_after x hx hp hs := by
    obtain ⟨x', y, rfl⟩ := (List.eq_nil_or_concat x).resolve_left hx
    obtain ⟨u, e⟩ := hs
    rw [List.concat_eq_append, ← List.append_assoc, ← List.cons_append] at e
    have hy := List.append_inj_right' e rfl
    rw [List.cons.injEq] at hy
    exact hc (hp.subset (by simp [hy.1]))

end Apart

/-! ### Replacing -/

section Replace

variable {w old new : Str}

/-- A word that does not occur is left out of what `str.replace` makes, if it is apart from what is
put in. -/
theorem not_infix_replaceFrom (h : Apart w new) {s : Str} (n : Nat) (hs : ¬w <:+: s) :
    ¬w <:+: replaceFrom old new n s := by
  -- `pre` is what has been copied since the last replacement
  have copied (s : Str) : (∀ pre, ¬w <:+: pre ++ s → ¬w <:+: pre ++ replaceFrom old new 0 s) ∧
      ∀ n, ¬w <:+: s → ¬w <:+: replaceFrom old new n s := by
    induction s with
    | nil => exact ⟨fun _ hp => hp, fun n hn => by cases n <;> exact hn⟩
    | cons c s ih =>
        have zero (pre : Str) (hp : ¬w <:+: pre ++ c :: s) :
            ¬w <:+: pre ++ replaceFrom old new 0 (c :: s) := by
          have hrest : ¬w <:+: s := fun hi => hp (hi.trans ⟨pre ++ [c], [], by simp⟩)
          rw [replaceFrom]
          split
          · rw [h.infix_append_iff]
            exact not_or.mpr ⟨fun hi => hp (hi.trans (List.infix_append' [] pre _)),
              ih.2 _ hrest⟩
          · have step := ih.1 (pre ++ [c])
            rw [List.append_assoc, List.append_assoc, List.singleton_append,
              List.singleton_append] at step
            exact step hp
        refine ⟨zero, fun n hn => ?_⟩
        cases n with
        | zero => exact zero [] hn
        | succ n => exact ih.2 n fun hi => hn (hi.trans (List.suffix_cons c s).isInfix)
  exact (copied s).2 n hs

/-- `str.replace` leaves no occurrence of the word that it replaces. -/
theorem not_infix_replaceFrom_self (h : Apart old new) (n : Nat) (s : Str) :
    ¬old <:+: replaceFrom old new n s := by
  -- in `pre`, which has been copied since the last replacement, no occurrence starts
  have copied (s : Str) : (∀ pre, (∀ u v, pre ++ s = u ++ (old ++ v) → pre.length ≤ u.length) →
      ¬old <:+: pre ++ replaceFrom old new 0 s) ∧ ∀ n, ¬old <:+: replaceFrom old new n s := by
    have inside {pre : Str} {s : Str} (hp : ∀ u v, pre ++ s = u ++ (old ++ v) →
        pre.length ≤ u.length) : ¬old <:+: pre := by
      rintro ⟨u, v, rfl⟩
      have hlen := hp u (v ++ s) (by simp only [List.append_assoc])
      have hpos := List.length_pos_iff.mpr h.ne_nil
      simp only [List.length_append] at hlen
      omega
    induction s with
    | nil =>
        refine ⟨fun pre hp => ?_, fun n hi => h.ne_nil (List.infix_nil.mp ?_)⟩
        · rw [replaceFrom, List.append_nil]
          exact inside hp
        · cases n <;> exact hi
    | cons c s ih =>
        have zero (pre : Str) (hp : ∀ u v, pre ++ c :: s = u ++ (old ++ v) →
            pre.length ≤ u.length) : ¬old <:+: pre ++ replaceFrom old new 0 (c :: s) := by
          rw [replaceFrom]
          split
          · rw [h.infix_append_iff]
            exact not_or.mpr ⟨inside hp, ih.2 _⟩
          · rename_i hno
            have step := ih.1 (pre ++ [c]) fun u v e => by
              rw [List.append_assoc, List.singleton_append] at e
              have hle := hp u v e
              rw [List.length_append, List.length_singleton]
              rcases Nat.lt_or_ge pre.length u.length with hlt | hge
              · exact hlt
              · -- the occurrence would start at `c`
                have hu := List.append_inj_right e (Nat.le_antisymm hle hge)
                exact absurd (List.isPrefixOf_iff_prefix.mpr ⟨v, hu.symm⟩) hno
            rw [List.append_assoc, List.singleton_append] at step
            exact step
        refine ⟨zero, fun n => ?_⟩
        cases n with
        | zero => exact zero [] fun _ _ _ => Nat.zero_le _
        | succ n => exact ih.2 n
  exact (copied s).2 n

/-- Where there is nothing to replace, nothing changes. -/
theorem replaceFrom_eq_self {s : Str} (h : ¬old <:+: s) : replaceFrom old new 0 s = s := by
  induction s with
  | nil => rfl
  | cons c s ih =>
      have hno : ¬old.isPrefixOf (c :: s) = true := fun hp =>
        h (List.isPrefixOf_iff_prefix.mp hp).isInfix
      rw [replaceFrom, if_neg hno, ih fun hi => h (hi.trans (List.suffix_cons c s).isInfix)]

end Replace

/-! ### Masking -/

namespace Span

variable {L α : Type*} {ph : L → List α} {w text : List α}

/-- What lies between the masks is part of the text. -/
theorem infix_of_mem_gaps {g : List α} {K : List (Span L)} {c : Nat} (h : g ∈ gaps text c K) :
    g <:+: text := by
  induction K generalizing c with
  | nil =>
      rw [gaps, List.mem_singleton] at h
      exact h ▸ (List.drop_suffix c text).isInfix
  | cons k K ih =>
      rcases List.mem_cons.mp h with rfl | h
      · exact (List.drop_suffix _ _).isInfix.trans (List.take_prefix _ _).isInfix
      · exact ih h

/-- **A word in a masked text** that is apart from the masks lies between them. -/
theorem infix_out_iff {K : List (Span L)} {c : Nat} (h : ∀ k ∈ K, Apart w (ph k.label)) :
    w <:+: out ph text c K ↔ ∃ g ∈ gaps text c K, w <:+: g := by
  induction K generalizing c with
  | nil => rw [out_nil, gaps]; simp only [List.mem_singleton, exists_eq_left]
  | cons k K ih =>
      rw [out_cons, (h k List.mem_cons_self).infix_append_iff,
        ih fun k' hk' => h k' (List.mem_cons_of_mem k hk'), gaps]
      simp only [List.mem_cons, exists_eq_or_imp]

/-- Masking puts no word into a text that is apart from the masks. -/
theorem not_infix_out {K : List (Span L)} {c : Nat} (h : ∀ k ∈ K, Apart w (ph k.label))
    (hw : ¬w <:+: text) : ¬w <:+: out ph text c K := by
  rw [infix_out_iff h]
  rintro ⟨g, hg, hi⟩
  exact hw (hi.trans (infix_of_mem_gaps hg))

end Span

/-! ### Where a word stands -/

/-- `w` stands in `text` after its first `n` characters. -/
def OccursAt {α : Type*} (w text : List α) (n : Nat) : Prop :=
  ∃ u v, text = u ++ (w ++ v) ∧ u.length = n

namespace Span

variable {L α : Type*} {ph : L → List α} {w text : List α}

/-- `k` shares a position with the stretch from `n` to `m`. -/
def Meets (k : Span L) (n m : Nat) : Prop := k.start < m ∧ n < k.stop

theorem infix_drop_iff {c : Nat} (hc : c ≤ text.length) :
    w <:+: text.drop c ↔ ∃ n, OccursAt w text n ∧ c ≤ n := by
  constructor
  · rintro ⟨u, v, e⟩
    refine ⟨c + u.length, ⟨text.take c ++ u, v, ?_, ?_⟩, Nat.le_add_right c _⟩
    · rw [List.append_assoc, ← List.append_assoc u, e, List.take_append_drop]
    · rw [List.length_append, List.length_take, Nat.min_eq_left hc]
  · rintro ⟨n, ⟨u, v, rfl, rfl⟩, hn⟩
    rw [List.drop_append_of_le_length hn]
    exact ⟨u.drop c, v, List.append_assoc _ _ _⟩

/-- An occurrence that ends in time stands in the start of the text. -/
theorem occursAt_take_iff {n s : Nat} (hs : s ≤ text.length) :
    OccursAt w (text.take s) n ↔ OccursAt w text n ∧ n + w.length ≤ s := by
  constructor
  · rintro ⟨u, v, e, rfl⟩
    refine ⟨⟨u, v ++ text.drop s, ?_, rfl⟩, ?_⟩
    · rw [← List.append_assoc w, ← List.append_assoc u, ← e, List.take_append_drop]
    · have hlen := congrArg List.length e
      simp only [List.length_append, List.length_take, Nat.min_eq_left hs] at hlen
      omega
  · rintro ⟨⟨u, v, rfl, rfl⟩, hle⟩
    refine ⟨u, v.take (s - (u ++ w).length), ?_, rfl⟩
    rw [← List.append_assoc, List.take_append, List.take_of_length_le (by simpa using hle),
      List.append_assoc]

/-- A word stands between the masks where it meets none of the masked spans. -/
theorem infix_gaps_iff {K : List (Span L)} {c : Nat} (h : Chain text.length c K) :
    (∃ g ∈ gaps text c K, w <:+: g) ↔
      ∃ n, OccursAt w text n ∧ c ≤ n ∧ ∀ k ∈ K, ¬k.Meets n (n + w.length) := by
  induction K generalizing c with
  | nil =>
      rw [gaps]
      simp only [List.mem_singleton, exists_eq_left, infix_drop_iff h, List.not_mem_nil,
        false_imp_iff, implies_true, and_true]
  | cons k K ih =>
      obtain ⟨h₁, h₂, h⟩ := h
      have hk : k.start ≤ text.length := Nat.le_trans h₂ h.le
      have first : w <:+: (text.take k.start).drop c ↔
          ∃ n, OccursAt w text n ∧ c ≤ n ∧ n + w.length ≤ k.start := by
        rw [infix_drop_iff (by rw [List.length_take]; omega)]
        simp only [occursAt_take_iff hk]
        exact exists_congr fun n => by rw [and_assoc, and_comm (a := c ≤ n)]
      rw [gaps]
      simp only [List.mem_cons, exists_eq_or_imp, first, ih h, forall_eq_or_imp, Meets]
      constructor
      · rintro (⟨n, ho, hc, hn⟩ | ⟨n, ho, hc, hn⟩)
        · refine ⟨n, ho, hc, by omega, fun k' hk' => ?_⟩
          have := (h.le_start k' hk').1
          omega
        · exact ⟨n, ho, by omega, by omega, hn⟩
      · rintro ⟨n, ho, hc, hn, hK⟩
        by_cases hle : n + w.length ≤ k.start
        · exact .inl ⟨n, ho, hc, hle⟩
        · exact .inr ⟨n, ho, by omega, hK⟩

/-- **A word in a masked text** is one that meets none of the masked spans. -/
theorem infix_out_iff_occursAt {K : List (Span L)} (hK : Chain text.length 0 K)
    (h : ∀ k ∈ K, Apart w (ph k.label)) :
    w <:+: out ph text 0 K ↔ ∃ n, OccursAt w text n ∧ ∀ k ∈ K, ¬k.Meets n (n + w.length) := by
  rw [infix_out_iff h, infix_gaps_iff hK]
  simp only [Nat.zero_le, true_and]

end Span

end Support

import SentinelAI.Support.Regex

/-!
# Support — Spelling

The words that matches of an expression read, where the expression is made of phrases in whatever
case.

* `Spells ws r`: every match of `r` reads one of the words `ws`.
* `Carries ks r`: every match of `r` reads one of the words `ks`, and maybe something around it.
* `Carries.exists_infix_lower`: what `r` finds in a text, a search for the words finds in the text
  in lower case, unless a character beyond ASCII has been taken for a letter.
-/

namespace Support

/-- The characters beyond ASCII that `re.IGNORECASE` takes for letters of ASCII. -/
def lookalikes : Str := ['ſ', Char.ofNat 0x212a, 'İ', 'ı']

theorem not_mem_lookalikes {c : Char} (h : isAscii c = true) : c ∉ lookalikes := by
  intro hc
  have beyond : lookalikes.any isAscii = false := by decide
  exact absurd h (List.any_eq_false.mp beyond c hc)

/-- A text of ASCII in lower case. -/
def lowerAscii (s : Str) : Bool := s.all fun c => isAscii c && c.toLower == c

theorem lowerAscii_iff {s : Str} :
    lowerAscii s = true ↔ ∀ c ∈ s, isAscii c = true ∧ c.toLower = c := by
  simp [lowerAscii]

theorem toLower_of_not_isAscii {c : Char} (h : isAscii c = false) : c.toLower = c := by
  refine dif_neg fun hr => ?_
  have small : c.toNat < 128 := Nat.lt_of_le_of_lt hr.2 (by decide)
  rw [isAscii, decide_eq_false_iff_not] at h
  exact h small

namespace Ucd

variable {U : Ucd}

/-- A stretch of ASCII is lowercased letter by letter. -/
theorem lowerFrom_ascii {v : Str} (h : ∀ c ∈ v, isAscii c = true) (pre t : Str) :
    U.lowerFrom pre (v ++ t) = v.map Char.toLower ++ U.lowerFrom (v.reverse ++ pre) t := by
  induction v generalizing pre with
  | nil => rfl
  | cons c v ih =>
      obtain ⟨hc, hv⟩ := List.forall_mem_cons.mp h
      rw [List.cons_append, lowerFrom, ih hv, lowerChar, if_pos hc, List.reverse_cons,
        List.append_assoc]
      rfl

theorem infix_lower {v t : Str} (h : ∀ c ∈ v, isAscii c = true) (hv : v <:+: t) :
    v.map Char.toLower <:+: U.lower t := by
  obtain ⟨pre, post, rfl⟩ := hv
  obtain ⟨pre', -, he⟩ := U.lowerFrom_append [] pre (v ++ post)
  rw [lower, List.append_assoc, he, lowerFrom_ascii h]
  exact ⟨pre', _, List.append_assoc _ _ _⟩

/-- A text of ASCII in lower case is left as it is. -/
theorem lower_eq_self {k : Str} (h : lowerAscii k = true) : U.lower k = k := by
  have low := lowerAscii_iff.mp h
  have mapped := lowerFrom_ascii (U := U) (fun c hc => (low c hc).1) [] []
  rw [List.append_nil] at mapped
  rw [lower, mapped, List.map_congr_left fun c hc => (low c hc).2, List.map_id']
  exact List.append_nil k

end Ucd

namespace Re

/-! ### Words in whatever case -/

/-- The text `w` reads `s`, in whatever case. -/
def Spelled (s w : Str) : Prop := List.Forall₂ (fun x c => sameLetter x c = true) s w

theorem Spelled.append {s s' w w' : Str} (h : Spelled s w) (h' : Spelled s' w') :
    Spelled (s ++ s') (w ++ w') :=
  List.rel_append h h'

theorem Spelled.of_append {s s' w : Str} (h : Spelled (s ++ s') w) :
    ∃ v v', w = v ++ v' ∧ Spelled s v ∧ Spelled s' v' := by
  induction s generalizing w with
  | nil => exact ⟨[], w, rfl, .nil, h⟩
  | cons x s ih =>
      cases h with
      | @cons _ c _ w hx h =>
          obtain ⟨v, v', rfl, hv, hv'⟩ := ih h
          exact ⟨c :: v, v', rfl, .cons hx hv, hv'⟩

/-- A part of a word is read where the word is. -/
theorem Spelled.of_infix {k s w : Str} (h : Spelled s w) (hk : k <:+: s) :
    ∃ v, v <:+: w ∧ Spelled k v := by
  obtain ⟨pre, post, rfl⟩ := hk
  obtain ⟨w₁, w₂, rfl, h, -⟩ := h.of_append
  obtain ⟨u, v, rfl, -, h⟩ := h.of_append
  exact ⟨v, ⟨u, w₂, rfl⟩, h⟩

/-- What reads a word of ASCII without any look-alike is that word, but for the case. -/
theorem Spelled.ascii {k v : Str} (h : Spelled k v) (hk : ∀ x ∈ k, isAscii x = true)
    (hv : ∀ c ∈ v, c ∉ lookalikes) :
    (∀ c ∈ v, isAscii c = true) ∧ v.map Char.toLower = k := by
  induction h with
  | nil => exact ⟨nofun, rfl⟩
  | @cons x c k v hx _ ih =>
      obtain ⟨hxa, hk⟩ := List.forall_mem_cons.mp hk
      obtain ⟨hc, hv⟩ := List.forall_mem_cons.mp hv
      obtain ⟨ascii, mapped⟩ := ih hk hv
      have same : c.toLower = x := by
        simp only [lookalikes, List.mem_cons, List.not_mem_nil, or_false, not_or] at hc
        obtain ⟨hs, hkelvin, hI, hi⟩ := hc
        have apart : c.toNat ≠ 0x212a := fun h => hkelvin (by rw [← h, Char.ofNat_toNat])
        simpa [sameLetter, hs, apart, hI, hi] using hx
      refine ⟨List.forall_mem_cons.mpr ⟨?_, ascii⟩, by rw [List.map_cons, same, mapped]⟩
      by_contra hn
      rw [Bool.not_eq_true] at hn
      rw [toLower_of_not_isAscii hn] at same
      rw [same, hxa] at hn
      cases hn

/-! ### The words of an expression -/

/-- Every match of `r` reads one of `ws`. -/
def Spells (ws : List Str) (r : Re) : Prop :=
  ∀ (z z' : Place) (w : Str), Match r z z' → z.Reads w z' → ∃ s ∈ ws, Spelled s w

/-- Every match of `r` reads one of `ks` somewhere. -/
def Carries (ks : List Str) (r : Re) : Prop :=
  ∀ (z z' : Place) (w : Str), Match r z z' → z.Reads w z' →
    ∃ k ∈ ks, ∃ v, v <:+: w ∧ Spelled k v

section Words

variable {ws vs ks : List Str} {r s : Re}

theorem spells_eps : Spells [[]] .eps := by
  intro z z' w hm hw
  cases hm
  have empty : w = [] := by
    have := hw.after_length
    exact List.length_eq_zero_iff.mp (by omega)
  exact ⟨[], List.mem_singleton_self [], empty ▸ .nil⟩

theorem spells_phrase : ∀ s : Str, Spells [s] (phrase s)
  | [] => spells_eps
  | x :: s => by
      intro z z' w hm hw
      obtain ⟨z₁, hx, hs⟩ := match_seq_iff.mp hm
      obtain ⟨w₁, w₂, hw₁, hw₂, rfl⟩ := hx.reads_append hs hw
      obtain ⟨c, hc, hr⟩ := match_set_iff.mp hx
      obtain ⟨t, ht, hsp⟩ := spells_phrase s _ _ _ hs hw₂
      obtain rfl := List.mem_singleton.mp ht
      have first : w₁ = [c] := List.append_cancel_right (hw₁.1.symm.trans hr.1)
      exact ⟨_, List.mem_singleton_self _, first ▸ .cons hc hsp⟩

theorem Spells.seq (hr : Spells ws r) (hs : Spells vs s) :
    Spells (ws.flatMap fun w => vs.map (w ++ ·)) (.seq r s) := by
  intro z z' w hm hw
  obtain ⟨z₁, h₁, h₂⟩ := match_seq_iff.mp hm
  obtain ⟨w₁, w₂, hw₁, hw₂, rfl⟩ := h₁.reads_append h₂ hw
  obtain ⟨s₁, hs₁, read₁⟩ := hr _ _ _ h₁ hw₁
  obtain ⟨s₂, hs₂, read₂⟩ := hs _ _ _ h₂ hw₂
  exact ⟨s₁ ++ s₂, List.mem_flatMap.mpr ⟨s₁, hs₁, List.mem_map_of_mem hs₂⟩, read₁.append read₂⟩

theorem Spells.alt (hr : Spells ws r) (hs : Spells vs s) : Spells (ws ++ vs) (.alt r s) := by
  intro z z' w hm hw
  cases hm with
  | altL h =>
      obtain ⟨t, ht, read⟩ := hr _ _ _ h hw
      exact ⟨t, List.mem_append_left _ ht, read⟩
  | altR h =>
      obtain ⟨t, ht, read⟩ := hs _ _ _ h hw
      exact ⟨t, List.mem_append_right _ ht, read⟩

/-- The last of several parts. -/
theorem Spells.last (hr : Spells ws r) : Spells ws (cat [r]) := by
  intro z z' w hm hw
  obtain ⟨z₁, h, ⟨⟩⟩ := match_seq_iff.mp hm
  exact hr _ _ _ h hw

theorem Spells.carries (h : Spells ws r) (hk : ∀ w ∈ ws, ∃ k ∈ ks, k <:+: w) : Carries ks r := by
  intro z z' w hm hw
  obtain ⟨s, hs, read⟩ := h _ _ _ hm hw
  obtain ⟨k, hks, hk⟩ := hk s hs
  exact ⟨k, hks, read.of_infix hk⟩

theorem carries_phrase {p : Str} (h : ∃ k ∈ ks, k <:+: p) : Carries ks (phrase p) :=
  (spells_phrase p).carries fun w hw => by rwa [List.mem_singleton.mp hw]

theorem Carries.left (h : Carries ks r) : Carries ks (.seq r s) := by
  intro z z' w hm hw
  obtain ⟨z₁, h₁, h₂⟩ := match_seq_iff.mp hm
  obtain ⟨w₁, w₂, hw₁, -, rfl⟩ := h₁.reads_append h₂ hw
  obtain ⟨k, hk, v, hv, read⟩ := h _ _ _ h₁ hw₁
  exact ⟨k, hk, v, hv.trans (List.infix_append' [] w₁ w₂), read⟩

theorem Carries.right (h : Carries ks s) : Carries ks (.seq r s) := by
  intro z z' w hm hw
  obtain ⟨z₁, h₁, h₂⟩ := match_seq_iff.mp hm
  obtain ⟨w₁, w₂, -, hw₂, rfl⟩ := h₁.reads_append h₂ hw
  obtain ⟨k, hk, v, hv, read⟩ := h _ _ _ h₂ hw₂
  exact ⟨k, hk, v, hv.trans (List.suffix_append w₁ w₂).isInfix, read⟩

theorem Carries.alt (hr : Carries ks r) (hs : Carries ks s) : Carries ks (.alt r s) := by
  intro z z' w hm hw
  cases hm with
  | altL h => exact hr _ _ _ h hw
  | altR h => exact hs _ _ _ h hw

/-- **Words for an expression.**  What an expression finds that carries the words, the words are
found for in the text in lower case. -/
theorem Carries.exists_infix_lower {U : Ucd} (h : Carries ks r)
    (hk : ∀ k ∈ ks, ∀ x ∈ k, isAscii x = true) {t : Str} (ht : ∀ c ∈ t, c ∉ lookalikes)
    (hs : r.search t = true) : ∃ k ∈ ks, k <:+: U.lower t := by
  obtain ⟨z, z', rfl, hm⟩ := (search_iff r t).mp hs
  obtain ⟨w, hw⟩ := hm.reads
  obtain ⟨k, hks, v, hv, read⟩ := h _ _ _ hm hw
  have inside : v <:+: z.text :=
    hv.trans ⟨z.before.reverse, z'.after, by rw [Place.text, hw.1, List.append_assoc]⟩
  obtain ⟨ascii, mapped⟩ := read.ascii (hk k hks) fun c hc => ht c (inside.subset hc)
  exact ⟨k, hks, mapped ▸ Ucd.infix_lower ascii inside⟩

end Words

end Re

end Support

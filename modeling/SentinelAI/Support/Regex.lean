import SentinelAI.Support.Text
import Mathlib.Data.List.Basic
import Mathlib.Data.List.Infix

/-!
# Support — Regex

Backtracking regular expressions, as Python's `re` runs them.  `Re.ends r z` lists the places at
which a match of `r` that starts at `z` can end, in the order in which the backtracking matcher
tries them; the matcher takes the first.

* `mem_ends_iff`: the ends are those of the declarative relation `Match`.
* `ends_within`: in a longer text whose two seams are word boundaries on neither side, the ends
  that stay inside the shorter text are the shorter text's, in the same order.
* `search_append_cons`: a character the expression can neither read nor see splits a search in two.
* `search_agree`: expressions whose classes agree on the characters of a text find something in it
  together.
* `Match.beside_or_reads`: a match between word boundaries reads a word of the text whole, or leaves
  it alone.
* `findAll` is `finditer`, `search` is `search`; `search_iff` and `findAll_ne_nil_iff` say that both
  find something exactly when some place of the text starts a match.

An iteration of a star that reads nothing is not repeated.
-/

namespace Support

/-- A place in a text: what lies before it, nearest character first, and what lies after it. -/
@[ext] structure Place where
  before : Str
  after : Str
deriving DecidableEq

namespace Place

/-- The text `z` is a place of. -/
def text (z : Place) : Str := z.before.reverse ++ z.after

/-- The number of characters before `z`. -/
def pos (z : Place) : Nat := z.before.length

/-- From `z`, reading `w` leads to `z'`. -/
def Reads (z : Place) (w : Str) (z' : Place) : Prop :=
  z.after = w ++ z'.after ∧ z'.before = w.reverse ++ z.before

theorem Reads.nil (z : Place) : z.Reads [] z := ⟨rfl, rfl⟩

theorem Reads.one (b : Str) (c : Char) (a : Str) : Reads ⟨b, c :: a⟩ [c] ⟨c :: b, a⟩ := ⟨rfl, rfl⟩

theorem Reads.trans {z z₁ z₂ : Place} {w₁ w₂ : Str} (h₁ : z.Reads w₁ z₁) (h₂ : z₁.Reads w₂ z₂) :
    z.Reads (w₁ ++ w₂) z₂ :=
  ⟨by rw [h₁.1, h₂.1, List.append_assoc],
    by rw [h₂.2, h₁.2, List.reverse_append, List.append_assoc]⟩

/-- What is read is read part by part. -/
theorem reads_append_iff {z z' : Place} {w₁ w₂ : Str} :
    z.Reads (w₁ ++ w₂) z' ↔ ∃ z₁, z.Reads w₁ z₁ ∧ z₁.Reads w₂ z' := by
  constructor
  · rintro ⟨ha, hb⟩
    refine ⟨⟨w₁.reverse ++ z.before, w₂ ++ z'.after⟩, ⟨?_, rfl⟩, rfl, ?_⟩
    · rw [ha, List.append_assoc]
    · rw [hb, List.reverse_append, List.append_assoc]
  · rintro ⟨z₁, h₁, h₂⟩
    exact h₁.trans h₂

theorem Reads.text_eq {z z' : Place} {w : Str} (h : z.Reads w z') : z'.text = z.text := by
  simp [text, h.1, h.2]

theorem Reads.pos_eq {z z' : Place} {w : Str} (h : z.Reads w z') : z'.pos = z.pos + w.length := by
  simp [pos, h.2, Nat.add_comm]

theorem Reads.after_length {z z' : Place} {w : Str} (h : z.Reads w z') :
    z.after.length = w.length + z'.after.length := by
  simp [h.1]

/-- The same place, in the text with `pre` put before it and `post` after it. -/
def within (pre post : Str) (z : Place) : Place :=
  ⟨z.before ++ pre.reverse, z.after ++ post⟩

@[simp] theorem text_within (pre post : Str) (z : Place) :
    (z.within pre post).text = pre ++ (z.text ++ post) := by
  simp [text, within]

@[simp] theorem pos_within (pre post : Str) (z : Place) :
    (z.within pre post).pos = pre.length + z.pos := by
  simp [pos, within, Nat.add_comm]

/-- `z` has not gone past the start of the last `n` characters. -/
def inside (n : Nat) (z : Place) : Bool := n ≤ z.after.length

theorem inside_within (pre post : Str) (z : Place) :
    (z.within pre post).inside post.length = true := by
  simp [inside, within]

/-- A place that is not outside a stretch of the text is a place of the stretch. -/
theorem exists_within (pre t post : Str) {z : Place} (ht : z.text = pre ++ (t ++ post))
    (h₁ : pre.length ≤ z.pos) (h₂ : z.pos ≤ pre.length + t.length) :
    ∃ z₀ : Place, z₀.text = t ∧ z = z₀.within pre post := by
  obtain ⟨n, hn⟩ : ∃ n, z.pos = pre.length + n := ⟨z.pos - pre.length, by omega⟩
  have hle : n ≤ t.length := by omega
  have hb : z.before.reverse = pre ++ t.take n := by
    have h := congrArg (List.take z.pos) ht
    rw [text, pos, ← List.length_reverse, List.take_left, List.length_reverse] at h
    rw [h, show z.before.length = z.pos from rfl, hn, List.take_length_add_append,
      List.take_append_of_le_length hle]
  have ha : z.after = t.drop n ++ post := by
    have h := congrArg (List.drop z.pos) ht
    rw [text, pos, ← List.length_reverse, List.drop_left, List.length_reverse] at h
    rw [h, show z.before.length = z.pos from rfl, hn, List.drop_length_add_append,
      List.drop_append_of_le_length hle]
  refine ⟨⟨(t.take n).reverse, t.drop n⟩, by simp [text], ?_⟩
  have hb' := congrArg List.reverse hb
  rw [List.reverse_reverse, List.reverse_append] at hb'
  exact Place.ext hb' ha

/-- Places of one text are told apart by their positions. -/
theorem eq_of_pos {z z' : Place} (ht : z.text = z'.text) (hp : z.pos = z'.pos) : z = z' := by
  have h : z.before.reverse.length = z'.before.reverse.length := by simpa [pos] using hp
  obtain ⟨hb, ha⟩ := List.append_inj ht h
  exact Place.ext (List.reverse_injective hb) ha

end Place

/-- Regular expressions. -/
inductive Re where
  | eps
  /-- One character satisfying `p`. -/
  | set (p : Char → Bool)
  /-- `\b`, for the word characters `w`. -/
  | bound (w : Char → Bool)
  | seq (r s : Re)
  /-- `r|s`, trying `r` first. -/
  | alt (r s : Re)
  /-- `r*`, or `r*?` if `lzy`. -/
  | star (lzy : Bool) (r : Re)

/-- Exactly one of the two neighbours of `z` is a word character. -/
def Place.boundary (w : Char → Bool) (z : Place) : Bool :=
  (z.before.head?.any w) != (z.after.head?.any w)

namespace Re

/-- Up to `n` iterations of `f` from `z`, each reading something. -/
def iter (f : Place → List Place) (lzy : Bool) : Nat → Place → List Place
  | 0, z => [z]
  | n + 1, z =>
      let more := (f z).flatMap fun z' =>
        if z'.after.length < z.after.length then iter f lzy n z' else []
      if lzy then z :: more else more ++ [z]

/-- The places where a match starting at `z` can end, in the order they are tried. -/
def ends : Re → Place → List Place
  | eps, z => [z]
  | set p, ⟨b, c :: a⟩ => if p c then [⟨c :: b, a⟩] else []
  | set _, ⟨_, []⟩ => []
  | bound w, z => if z.boundary w then [z] else []
  | seq r s, z => (r.ends z).flatMap s.ends
  | alt r s, z => r.ends z ++ s.ends z
  -- each iteration reads something, so there are no more than characters left
  | star lzy r, z => iter r.ends lzy z.after.length z

/-! ### Derived forms -/

/-- `r?` -/
def opt (r : Re) : Re := .alt r .eps

/-- `r{n}` -/
def times : Nat → Re → Re
  | 0, _ => .eps
  | n + 1, r => .seq r (times n r)

/-- `r{0,n}` -/
def upTo : Nat → Re → Re
  | 0, _ => .eps
  | n + 1, r => .opt (.seq r (upTo n r))

/-- `r{n,m}` -/
def between (n m : Nat) (r : Re) : Re := .seq (times n r) (upTo (m - n) r)

/-- `r{n,}` -/
def atLeast (n : Nat) (r : Re) : Re := .seq (times n r) (.star false r)

/-- `r+` -/
def plus (r : Re) : Re := .seq r (.star false r)

/-- One character of `s`. -/
def oneOf (s : Str) : Re := .set (s.contains ·)

/-- The character `c`. -/
def chr (c : Char) : Re := .set (· == c)

/-- The parts one after the other. -/
def cat : List Re → Re
  | [] => .eps
  | r :: rs => .seq r (cat rs)

/-- Any of the parts, in the order of preference. -/
def any : List Re → Re
  | [] => .set fun _ => false
  | [r] => r
  | r :: rs => .alt r (any rs)

/-- The letter `x`, in lower case here, under `re.IGNORECASE`: its two cases, and beyond ASCII the
dotted and dotless i, the long s and the Kelvin sign. -/
def sameLetter (x c : Char) : Bool :=
  c.toLower == x || (x == 's' && c == 'ſ') || (x == 'k' && c.toNat == 0x212a) ||
    (x == 'i' && (c == 'İ' || c == 'ı'))

/-- The text `s`, in lower case here, under `re.IGNORECASE`. -/
def phrase (s : Str) : Re := cat (s.map fun x => .set (sameLetter x))

/-! ### The matches, declaratively -/

/-- `Match r z z'`: some match of `r` starts at `z` and ends at `z'`. -/
inductive Match : Re → Place → Place → Prop where
  | eps (z : Place) : Match .eps z z
  | set {p : Char → Bool} {b : Str} {c : Char} {a : Str} (h : p c = true) :
      Match (.set p) ⟨b, c :: a⟩ ⟨c :: b, a⟩
  | bound {w : Char → Bool} {z : Place} (h : z.boundary w = true) : Match (.bound w) z z
  | seq {r s : Re} {z z₁ z₂ : Place} (h₁ : Match r z z₁) (h₂ : Match s z₁ z₂) :
      Match (.seq r s) z z₂
  | altL {r s : Re} {z z' : Place} (h : Match r z z') : Match (.alt r s) z z'
  | altR {r s : Re} {z z' : Place} (h : Match s z z') : Match (.alt r s) z z'
  | starNil {lzy : Bool} {r : Re} (z : Place) : Match (.star lzy r) z z
  | starCons {lzy : Bool} {r : Re} {z z₁ z₂ : Place} (h : Match r z z₁)
      (hlt : z₁.after.length < z.after.length) (t : Match (.star lzy r) z₁ z₂) :
      Match (.star lzy r) z z₂

/-- A match reads a stretch of the text. -/
theorem Match.reads {r : Re} {z z' : Place} (h : Match r z z') : ∃ w, z.Reads w z' := by
  induction h with
  | eps z | starNil z | bound _ => exact ⟨[], .nil _⟩
  | @set _ b c a _ => exact ⟨[c], .one b c a⟩
  | seq _ _ ih₁ ih₂ | starCons _ _ _ ih₁ ih₂ =>
      obtain ⟨w₁, h₁⟩ := ih₁
      obtain ⟨w₂, h₂⟩ := ih₂
      exact ⟨w₁ ++ w₂, h₁.trans h₂⟩
  | altL _ ih | altR _ ih => exact ih

/-- What two matches in a row read is what the first reads and then what the second reads. -/
theorem Match.reads_append {r s : Re} {z z₁ z₂ : Place} (h₁ : Match r z z₁) (h₂ : Match s z₁ z₂)
    {w : Str} (hw : z.Reads w z₂) :
    ∃ w₁ w₂, z.Reads w₁ z₁ ∧ z₁.Reads w₂ z₂ ∧ w = w₁ ++ w₂ := by
  obtain ⟨w₁, hw₁⟩ := h₁.reads
  obtain ⟨w₂, hw₂⟩ := h₂.reads
  exact ⟨w₁, w₂, hw₁, hw₂, List.append_cancel_right (hw.1.symm.trans (hw₁.trans hw₂).1)⟩

/-- The iterations of `iter`, declaratively. -/
theorem mem_iter_iff {r : Re} {f : Place → List Place} (hf : ∀ z z', z' ∈ f z ↔ Match r z z')
    (lzy : Bool) : ∀ (n : Nat) (z z' : Place), z.after.length ≤ n →
      (z' ∈ iter f lzy n z ↔ Match (.star lzy r) z z')
  | 0, z, z', hn => by
      simp only [iter, List.mem_singleton]
      constructor
      · rintro rfl; exact .starNil _
      · intro h
        cases h with
        | starNil => rfl
        | starCons _ hlt _ => omega
  | n + 1, z, z', hn => by
      -- one iteration that reads something, and the ones after it
      have hmore : z' ∈ ((f z).flatMap fun z₁ =>
            if z₁.after.length < z.after.length then iter f lzy n z₁ else []) ↔
          ∃ z₁, Match r z z₁ ∧ z₁.after.length < z.after.length ∧ Match (.star lzy r) z₁ z' := by
        simp only [List.mem_flatMap, hf]
        constructor
        · rintro ⟨z₁, h, hz⟩
          split at hz
          · rename_i hlt
            exact ⟨z₁, h, hlt, (mem_iter_iff hf lzy n z₁ z' (by omega)).mp hz⟩
          · cases hz
        · rintro ⟨z₁, h, hlt, ht⟩
          refine ⟨z₁, h, ?_⟩
          rw [if_pos hlt]
          exact (mem_iter_iff hf lzy n z₁ z' (by omega)).mpr ht
      have hall : z' ∈ iter f lzy (n + 1) z ↔ z' = z ∨
          ∃ z₁, Match r z z₁ ∧ z₁.after.length < z.after.length ∧ Match (.star lzy r) z₁ z' := by
        rw [← hmore]
        cases lzy <;> simp [iter, or_comm]
      rw [hall]
      constructor
      · rintro (rfl | ⟨z₁, h, hlt, ht⟩)
        · exact .starNil _
        · exact .starCons h hlt ht
      · intro h
        cases h with
        | starNil => exact .inl rfl
        | starCons h hlt ht => exact .inr ⟨_, h, hlt, ht⟩

/-- **The matcher finds exactly the matches.** -/
theorem mem_ends_iff (r : Re) (z z' : Place) : z' ∈ r.ends z ↔ Match r z z' := by
  induction r generalizing z z' with
  | eps =>
      simp only [ends, List.mem_singleton]
      exact ⟨fun h => h ▸ .eps _, fun h => by cases h; rfl⟩
  | set p =>
      obtain ⟨b, a⟩ := z
      cases a with
      | nil => exact ⟨(nomatch ·), (nomatch ·)⟩
      | cons c a =>
          simp only [ends]
          constructor
          · intro h
            split at h
            · rename_i hp
              rw [List.mem_singleton] at h
              exact h ▸ .set hp
            · cases h
          · intro h
            cases h with
            | set hp => rw [if_pos hp]; exact List.mem_singleton.mpr rfl
  | bound w =>
      simp only [ends]
      constructor
      · intro h
        split at h
        · rename_i hb
          rw [List.mem_singleton] at h
          subst h
          exact .bound hb
        · cases h
      · intro h
        cases h with
        | bound hb => rw [if_pos hb]; exact List.mem_singleton.mpr rfl
  | seq r s ih₁ ih₂ =>
      simp only [ends, List.mem_flatMap, ih₁, ih₂]
      constructor
      · rintro ⟨z₁, h₁, h₂⟩; exact .seq h₁ h₂
      · intro h
        cases h with
        | seq h₁ h₂ => exact ⟨_, h₁, h₂⟩
  | alt r s ih₁ ih₂ =>
      simp only [ends, List.mem_append, ih₁, ih₂]
      constructor
      · rintro (h | h)
        · exact .altL h
        · exact .altR h
      · intro h
        cases h with
        | altL h => exact .inl h
        | altR h => exact .inr h
  | star lzy r ih => exact mem_iter_iff ih lzy _ z z' (Nat.le_refl _)

/-! ### Single characters and runs of them -/

theorem match_eps_iff {z z' : Place} : Match .eps z z' ↔ z' = z := by
  constructor
  · rintro ⟨⟩
    rfl
  · rintro rfl
    exact .eps _

theorem match_seq_iff {r s : Re} {z z' : Place} :
    Match (.seq r s) z z' ↔ ∃ z₁, Match r z z₁ ∧ Match s z₁ z' := by
  constructor
  · rintro (_ | _ | _ | ⟨h₁, h₂⟩)
    exact ⟨_, h₁, h₂⟩
  · rintro ⟨z₁, h₁, h₂⟩
    exact .seq h₁ h₂

theorem match_set_iff {p : Char → Bool} {z z' : Place} :
    Match (.set p) z z' ↔ ∃ c, p c = true ∧ z.Reads [c] z' := by
  constructor
  · intro h
    cases h with
    | @set _ b c a hc => exact ⟨c, hc, .one b c a⟩
  · obtain ⟨b, a⟩ := z
    obtain ⟨b', a'⟩ := z'
    rintro ⟨c, hc, ha, hb⟩
    dsimp only at ha hb
    rw [ha, hb]
    exact .set hc

theorem match_chr_iff {c : Char} {z z' : Place} : Match (chr c) z z' ↔ z.Reads [c] z' := by
  unfold chr
  rw [match_set_iff]
  simp only [beq_iff_eq, exists_eq_left]

/-- A star over a set reads any run of its characters. -/
theorem match_star_set_iff {lzy : Bool} {p : Char → Bool} {z z' : Place} :
    Match (.star lzy (.set p)) z z' ↔ ∃ w, (∀ c ∈ w, p c = true) ∧ z.Reads w z' := by
  constructor
  · generalize hr : Re.star lzy (.set p) = r
    intro h
    induction h with
    | starNil z => exact ⟨[], fun _ hc => (List.not_mem_nil hc).elim, .nil z⟩
    | starCons h₁ _ _ _ ih =>
        cases hr
        obtain ⟨c, hc, h₁⟩ := match_set_iff.mp h₁
        obtain ⟨w, hw, h₂⟩ := ih rfl
        exact ⟨c :: w, List.forall_mem_cons.mpr ⟨hc, hw⟩, h₁.trans h₂⟩
    | _ => cases hr
  · rintro ⟨w, hw, h⟩
    induction w generalizing z with
    | nil =>
        obtain ⟨b, a⟩ := z
        obtain ⟨b', a'⟩ := z'
        obtain ⟨ha, hb⟩ := h
        dsimp only at ha hb
        rw [ha, hb]
        exact .starNil _
    | cons c w ih =>
        obtain ⟨b, a⟩ := z
        obtain ⟨ha, hb⟩ := h
        obtain ⟨hc, hw⟩ := List.forall_mem_cons.mp hw
        dsimp only at ha hb
        rw [ha]
        refine .starCons (.set hc) (Nat.lt_succ_self _) (ih hw ⟨rfl, ?_⟩)
        rw [hb, List.reverse_cons, List.append_assoc, List.singleton_append]

theorem match_plus_set_iff {p : Char → Bool} {z z' : Place} :
    Match (plus (.set p)) z z' ↔ ∃ w, w ≠ [] ∧ (∀ c ∈ w, p c = true) ∧ z.Reads w z' := by
  unfold plus
  rw [match_seq_iff]
  constructor
  · rintro ⟨z₁, h₁, h₂⟩
    obtain ⟨c, hc, h₁⟩ := match_set_iff.mp h₁
    obtain ⟨w, hw, h₂⟩ := match_star_set_iff.mp h₂
    exact ⟨c :: w, List.cons_ne_nil c w, List.forall_mem_cons.mpr ⟨hc, hw⟩, h₁.trans h₂⟩
  · rintro ⟨w, hne, hw, h⟩
    obtain ⟨c, w, rfl⟩ := List.exists_cons_of_ne_nil hne
    obtain ⟨hc, hw⟩ := List.forall_mem_cons.mp hw
    obtain ⟨ha, hb⟩ := h
    refine ⟨⟨c :: z.before, w ++ z'.after⟩, match_set_iff.mpr ⟨c, hc, ha, rfl⟩,
      match_star_set_iff.mpr ⟨w, hw, rfl, ?_⟩⟩
    rw [hb, List.reverse_cons, List.append_assoc, List.singleton_append]

/-! ### What a match reads -/

/-- Every character that `r` can read satisfies `P`. -/
def Over (P : Char → Prop) : Re → Prop
  | eps | bound _ => True
  | set p => ∀ c, p c = true → P c
  | seq r s | alt r s => Over P r ∧ Over P s
  | star _ r => Over P r

/-- The least number of characters a match of `r` reads. -/
def minLen : Re → Nat
  | eps | bound _ | star _ _ => 0
  | set _ => 1
  | seq r s => minLen r + minLen s
  | alt r s => min (minLen r) (minLen s)

theorem Match.over {P : Char → Prop} {r : Re} {z z' : Place} (h : Match r z z') (hr : Over P r) :
    ∀ {w : Str}, z.Reads w z' → ∀ c ∈ w, P c := by
  induction h with
  | eps z | starNil z | bound _ =>
      intro w hw c hc
      have := hw.after_length
      have : w = [] := List.length_eq_zero_iff.mp (by omega)
      simp [this] at hc
  | @set p b c a h =>
      intro w hw d hd
      have hl : w.length = 1 := by have := hw.after_length; simp at this; omega
      obtain ⟨e, rfl⟩ := List.length_eq_one_iff.mp hl
      have : c = e := by have := hw.1; simp at this; exact this
      rw [List.mem_singleton] at hd
      rw [hd, ← this]
      exact hr c h
  | seq h₁ h₂ ih₁ ih₂ =>
      intro w hw c hc
      obtain ⟨w₁, w₂, hw₁, hw₂, rfl⟩ := h₁.reads_append h₂ hw
      rcases List.mem_append.mp hc with hc | hc
      · exact ih₁ hr.1 hw₁ c hc
      · exact ih₂ hr.2 hw₂ c hc
  | altL _ ih => exact ih hr.1
  | altR _ ih => exact ih hr.2
  | starCons h₁ _ h₂ ih₁ ih₂ =>
      intro w hw c hc
      obtain ⟨w₁, w₂, hw₁, hw₂, rfl⟩ := h₁.reads_append h₂ hw
      rcases List.mem_append.mp hc with hc | hc
      · exact ih₁ hr hw₁ c hc
      · exact ih₂ hr hw₂ c hc

theorem Match.minLen_le {r : Re} {z z' : Place} (h : Match r z z') :
    r.minLen + z'.after.length ≤ z.after.length := by
  induction h with
  | eps | starNil | bound => simp [minLen]
  | set => simp [minLen]; omega
  | seq _ _ ih₁ ih₂ => simp only [minLen]; omega
  | altL _ ih | altR _ ih => simp only [minLen]; omega
  | starCons _ _ _ ih₁ ih₂ => simp only [minLen] at *; omega

/-! ### Matching inside a longer text -/

/-- No `\b` of `r` sees a word character at the end of `pre` or at the start of `post`. -/
def Sealed (pre post : Str) : Re → Prop
  | eps | set _ => True
  | bound w => pre.getLast?.any w = false ∧ post.head?.any w = false
  | seq r s | alt r s => Sealed pre post r ∧ Sealed pre post s
  | star _ r => Sealed pre post r

theorem boundary_within {w : Char → Bool} {pre post : Str} (h : Sealed pre post (.bound w))
    (z : Place) : (z.within pre post).boundary w = z.boundary w := by
  have hb : (z.before ++ pre.reverse).head?.any w = z.before.head?.any w := by
    cases hz : z.before with
    | nil => simpa [List.head?_reverse] using h.1
    | cons c b => rfl
  have ha : (z.after ++ post).head?.any w = z.after.head?.any w := by
    cases hz : z.after with
    | nil => simpa using h.2
    | cons c a => rfl
  simp only [Place.boundary, Place.within, hb, ha]

theorem ends_le {r : Re} {z z' : Place} (h : z' ∈ r.ends z) :
    z'.after.length ≤ z.after.length := by
  have := ((mem_ends_iff r z z').mp h).minLen_le
  omega

theorem iter_le {f : Place → List Place} (hf : ∀ z z', z' ∈ f z → z'.after.length ≤ z.after.length)
    {lzy : Bool} : ∀ {n : Nat} {z z' : Place}, z' ∈ iter f lzy n z →
      z'.after.length ≤ z.after.length
  | 0, z, z', h => by
      rw [iter, List.mem_singleton] at h
      rw [h]
  | n + 1, z, z', h => by
      have hz : z' = z ∨ z' ∈ (f z).flatMap fun z₁ =>
          if z₁.after.length < z.after.length then iter f lzy n z₁ else [] := by
        cases lzy <;> simpa [iter, or_comm] using h
      rcases hz with rfl | hz
      · exact Nat.le_refl _
      · obtain ⟨z₁, -, h₁⟩ := List.mem_flatMap.mp hz
        split at h₁
        · have := iter_le hf h₁
          omega
        · cases h₁

/-- One round of `iter`, when the fuel covers what is left to read. -/
theorem iter_round (f : Place → List Place) (lzy : Bool) {n : Nat} {z : Place}
    (hn : z.after.length ≤ n) :
    iter f lzy n z =
      let more := (f z).flatMap fun z' =>
        if z'.after.length < z.after.length then iter f lzy (n - 1) z' else []
      if lzy then z :: more else more ++ [z] := by
  cases n with
  | zero =>
      -- nothing is left to read, so no iteration reads anything
      have hz : z.after.length = 0 := by omega
      have : ((f z).flatMap fun z' =>
          if z'.after.length < z.after.length then iter f lzy (0 - 1) z' else []) = [] := by
        simp [hz]
      simp only [this, iter]
      cases lzy <;> rfl
  | succ n => rfl

/-- Past the inside, nothing comes back. -/
theorem filter_inside_flatMap {f : Place → List Place} (n : Nat)
    (hf : ∀ z z', z' ∈ f z → z'.after.length ≤ z.after.length) (l : List Place) :
    (l.flatMap f).filter (Place.inside n) =
      (l.filter (Place.inside n)).flatMap fun z => (f z).filter (Place.inside n) := by
  induction l with
  | nil => rfl
  | cons z l ih =>
      rw [List.flatMap_cons, List.filter_append, ih]
      cases hz : z.inside n with
      | true => rw [List.filter_cons_of_pos hz, List.flatMap_cons]
      | false =>
          -- `f` only goes further from a place that is past the inside
          have hnil : (f z).filter (Place.inside n) = [] := by
            rw [List.filter_eq_nil_iff]
            intro z' hz'
            have := hf z z' hz'
            simp only [Place.inside, decide_eq_true_eq, decide_eq_false_iff_not] at hz ⊢
            omega
          rw [hnil, List.filter_cons_of_neg (by simp [hz]), List.nil_append]

theorem iter_within {f : Place → List Place} {pre post : Str}
    (hle : ∀ z z', z' ∈ f z → z'.after.length ≤ z.after.length)
    (hf : ∀ z, (f (z.within pre post)).filter (Place.inside post.length) =
      (f z).map (Place.within pre post)) (lzy : Bool) :
    ∀ (k n m : Nat) (z : Place), z.after.length = k → k + post.length ≤ n → k ≤ m →
      (iter f lzy n (z.within pre post)).filter (Place.inside post.length) =
        (iter f lzy m z).map (Place.within pre post) := by
  -- on the number of characters left inside; each side has fuel of its own
  intro k
  induction k using Nat.strong_induction_on with
  | _ k ih =>
      intro n m z hk hn hm
      have hlen : (z.within pre post).after.length = k + post.length := by
        simp [Place.within, hk]
      have hin : (z.within pre post).inside post.length = true := Place.inside_within pre post z
      -- the further iterations, filtered
      have hmore : ((f (z.within pre post)).flatMap fun z' =>
            if z'.after.length < (z.within pre post).after.length then iter f lzy (n - 1) z'
            else []).filter (Place.inside post.length) =
          ((f z).flatMap fun z' =>
            if z'.after.length < z.after.length then iter f lzy (m - 1) z' else []).map
              (Place.within pre post) := by
        rw [filter_inside_flatMap post.length (fun x x' hx => ?_), hf, List.flatMap_map,
          List.map_flatMap]
        · refine List.flatMap_congr fun z₁ hz₁ => ?_
          have h₁ : (z₁.within pre post).after.length = z₁.after.length + post.length := by
            simp [Place.within]
          by_cases hlt : z₁.after.length < z.after.length
          · rw [if_pos hlt, if_pos (by omega)]
            exact ih z₁.after.length (by omega) (n - 1) (m - 1) z₁ rfl (by omega) (by omega)
          · rw [if_neg hlt, if_neg (by omega)]
            rfl
        · split at hx
          · exact iter_le hle hx
          · cases hx
      rw [iter_round f lzy (by omega : (z.within pre post).after.length ≤ n),
        iter_round f lzy (by omega : z.after.length ≤ m)]
      cases lzy
      · simp only [Bool.false_eq_true, if_false, List.filter_append, List.map_append, hmore,
          List.map_cons, List.map_nil, List.filter_cons_of_pos hin, List.filter_nil]
      · simp only [if_true, List.map_cons, List.filter_cons_of_pos hin, hmore]

/-- **Locality.**  In `pre ++ text ++ post`, sealed at the two seams, the ends that stay inside
`text` are those of `text` alone, in the same order. -/
theorem ends_within {pre post : Str} {r : Re} (hr : Sealed pre post r) (z : Place) :
    (r.ends (z.within pre post)).filter (Place.inside post.length) =
      (r.ends z).map (Place.within pre post) := by
  induction r generalizing z with
  | eps => simp [ends, Place.inside_within]
  | set p =>
      obtain ⟨b, a⟩ := z
      cases a with
      -- at its end the text has nothing to read, and the longer one leads past the inside
      | nil =>
          cases post with
          | nil => simp [Place.within, ends]
          | cons c t =>
              simp only [Place.within, List.nil_append, ends]
              split <;> simp [Place.inside]
      | cons c a =>
          simp only [Place.within, List.cons_append, ends]
          split
          · simp [Place.inside, Place.within]
          · simp
  | bound w =>
      simp only [ends, boundary_within hr]
      split
      · simp [Place.inside_within]
      · simp
  | seq r s ih₁ ih₂ =>
      simp only [ends]
      rw [filter_inside_flatMap post.length (fun z z' h => ends_le h), ih₁ hr.1, List.flatMap_map,
        List.map_flatMap]
      exact List.flatMap_congr fun z' _ => ih₂ hr.2 z'
  | alt r s ih₁ ih₂ =>
      simp only [ends, List.filter_append, List.map_append, ih₁ hr.1, ih₂ hr.2]
  | star lzy r ih =>
      simp only [ends]
      exact iter_within (fun z z' h => ends_le h) (fun z => ih hr z) lzy _ _ _ z rfl
        (by simp [Place.within]) (Nat.le_refl _)

theorem Match.within {pre post : Str} {r : Re} (hr : Sealed pre post r) {z z' : Place}
    (h : Match r z z') : Match r (z.within pre post) (z'.within pre post) := by
  rw [← mem_ends_iff] at h ⊢
  have := List.mem_map_of_mem (f := Place.within pre post) h
  rw [← ends_within hr] at this
  exact (List.mem_filter.mp this).1

theorem Match.of_within {pre post : Str} {r : Re} (hr : Sealed pre post r) {z y : Place}
    (h : Match r (z.within pre post) y) (hy : y.inside post.length = true) :
    ∃ z', y = z'.within pre post ∧ Match r z z' := by
  rw [← mem_ends_iff] at h
  have hm : y ∈ (r.ends (z.within pre post)).filter (Place.inside post.length) :=
    List.mem_filter.mpr ⟨h, hy⟩
  rw [ends_within hr] at hm
  obtain ⟨z', hz', rfl⟩ := List.mem_map.mp hm
  exact ⟨z', rfl, (mem_ends_iff r z z').mp hz'⟩

/-- What is read past the inside goes through the first character of `post`. -/
theorem reads_past {pre post v : Str} {z y : Place} (hv : (z.within pre post).Reads v y)
    (hy : y.inside post.length = false) : ∃ d r, post.head? = some d ∧ v = z.after ++ d :: r := by
  simp only [Place.inside, decide_eq_false_iff_not, Nat.not_le] at hy
  have heq : z.after ++ post = v ++ y.after := hv.1
  rcases List.append_eq_append_iff.mp heq with ⟨t, hvt, hpost⟩ | ⟨t, -, hpost⟩
  · cases t with
    | nil =>
        have := congrArg List.length hpost
        simp at this
        omega
    | cons d r => exact ⟨d, r, by rw [hpost]; rfl, hvt⟩
  · have := congrArg List.length hpost
    simp at this
    omega

/-- A match that cannot read the first character of `post` stays inside. -/
theorem Match.inside_of_over {P : Char → Prop} {pre post : Str} {r : Re} (hr : Over P r)
    (hpost : ∀ c, post.head? = some c → ¬ P c) {z y : Place}
    (h : Match r (z.within pre post) y) : y.inside post.length = true := by
  obtain ⟨v, hv⟩ := h.reads
  by_contra hy
  obtain ⟨d, t, hd, rfl⟩ := reads_past hv (Bool.not_eq_true _ ▸ hy)
  exact hpost d hd (h.over hr hv d (by simp))

/-! ### Characters that a match cannot meet -/

/-- `r` does not read `d`, and no `\b` of `r` takes it for a word character. -/
def blind (d : Char) : Re → Bool
  | eps => true
  | set p => !p d
  | bound w => !w d
  | seq r s | alt r s => blind d r && blind d s
  | star _ r => blind d r

theorem over_of_blind {d : Char} {r : Re} (h : r.blind d = true) : Over (· ≠ d) r := by
  induction r with
  | eps | bound _ => trivial
  | set p =>
      rintro c hc rfl
      simp [blind, hc] at h
  | seq r s ih₁ ih₂ | alt r s ih₁ ih₂ =>
      simp only [blind, Bool.and_eq_true] at h
      exact ⟨ih₁ h.1, ih₂ h.2⟩
  | star _ r ih => exact ih h

/-- `r` does not read `d`. -/
def skips (d : Char) : Re → Bool
  | eps | bound _ => true
  | set p => !p d
  | seq r s | alt r s => skips d r && skips d s
  | star _ r => skips d r

theorem over_of_skips {d : Char} {r : Re} (h : r.skips d = true) :
    Over (fun c => (c == d) = false) r := by
  induction r with
  | eps | bound _ => trivial
  | set p =>
      intro c hc
      rw [beq_eq_false_iff_ne]
      rintro rfl
      simp [skips, hc] at h
  | seq r s ih₁ ih₂ | alt r s ih₁ ih₂ =>
      simp only [skips, Bool.and_eq_true] at h
      exact ⟨ih₁ h.1, ih₂ h.2⟩
  | star _ r ih => exact ih h

theorem sealed_of_blind {pre post : Str} {r : Re}
    (hpre : ∀ d, pre.getLast? = some d → r.blind d = true)
    (hpost : ∀ d, post.head? = some d → r.blind d = true) : Sealed pre post r := by
  induction r with
  | eps | set _ => trivial
  | bound w =>
      constructor
      · rw [Option.any_eq_false]
        exact fun d hd => by simpa [blind] using hpre d hd
      · rw [Option.any_eq_false]
        exact fun d hd => by simpa [blind] using hpost d hd
  | seq r s ih₁ ih₂ | alt r s ih₁ ih₂ =>
      simp only [blind, Bool.and_eq_true] at hpre hpost
      exact ⟨ih₁ (fun d h => (hpre d h).1) (fun d h => (hpost d h).1),
        ih₂ (fun d h => (hpre d h).2) (fun d h => (hpost d h).2)⟩
  | star _ r ih => exact ih hpre hpost

/-- No `\b` of `r` takes `d` for a word character. -/
def unseen (d : Char) : Re → Bool
  | eps | set _ => true
  | bound w => !w d
  | seq r s | alt r s => unseen d r && unseen d s
  | star _ r => unseen d r

/-- A text is sealed by a character that the expression does not see. -/
theorem sealed_of_unseen {d : Char} {pre post : Str} (hpre : ∀ c, pre.getLast? = some c → c = d)
    (hpost : ∀ c, post.head? = some c → c = d) {r : Re} (h : r.unseen d = true) :
    Sealed pre post r := by
  induction r with
  | eps | set _ => trivial
  | bound w =>
      have hd : w d = false := by simpa [unseen] using h
      constructor
      · rw [Option.any_eq_false]
        exact fun c hc => by simp [hpre c hc, hd]
      · rw [Option.any_eq_false]
        exact fun c hc => by simp [hpost c hc, hd]
  | seq r s ih₁ ih₂ | alt r s ih₁ ih₂ =>
      simp only [unseen, Bool.and_eq_true] at h
      exact ⟨ih₁ h.1, ih₂ h.2⟩
  | star _ r ih => exact ih h

/-! ### How many characters of a class a match reads -/

/-- A match of `r` reads at least `m` and at most `n` characters of the class `q`. -/
def Counts (q : Char → Bool) (r : Re) (m n : Nat) : Prop :=
  ∀ (z z' : Place) (w : Str), Match r z z' → z.Reads w z' → m ≤ w.countP q ∧ w.countP q ≤ n

section Counts

variable {q : Char → Bool} {r s : Re} {a b c d : Nat}

theorem counts_of_over (h : Over (q · = false) r) : Counts q r 0 0 := by
  intro z z' w hm hw
  have : w.countP q = 0 := List.countP_eq_zero.mpr fun e he => by simp [hm.over h hw e he]
  omega

theorem counts_of_skips {e : Char} (h : r.skips e = true) : Counts (· == e) r 0 0 :=
  counts_of_over (over_of_skips h)

theorem counts_eps : Counts q .eps 0 0 := counts_of_over (by trivial)

theorem counts_set {p : Char → Bool} (h : ∀ e, p e = true → q e = true) :
    Counts q (.set p) 1 1 := by
  intro z z' w hm hw
  cases hm with
  | @set _ b e a he =>
      have hl := hw.after_length
      obtain ⟨e', rfl⟩ := List.length_eq_one_iff.mp (by simp at hl; omega : w.length = 1)
      have : e = e' := by simpa using hw.1
      simp [← this, h e he]

theorem counts_set_le {p : Char → Bool} : Counts q (.set p) 0 1 := by
  intro z z' w hm hw
  cases hm with
  | set _ =>
      have hl := hw.after_length
      have := List.countP_le_length (p := q) (l := w)
      simp only [List.length_cons] at hl
      omega

theorem Counts.mono {a' b' : Nat} (hr : Counts q r a b) (ha : a' ≤ a) (hb : b ≤ b') :
    Counts q r a' b' := fun z z' w hm hw => by
  have := hr z z' w hm hw
  omega

theorem Counts.seq (hr : Counts q r a b) (hs : Counts q s c d) :
    Counts q (.seq r s) (a + c) (b + d) := by
  intro z z' w hm hw
  cases hm with
  | seq h₁ h₂ =>
      obtain ⟨w₁, w₂, hw₁, hw₂, rfl⟩ := h₁.reads_append h₂ hw
      have := hr _ _ _ h₁ hw₁
      have := hs _ _ _ h₂ hw₂
      rw [List.countP_append]
      omega

theorem Counts.opt (hr : Counts q r a b) : Counts q r.opt 0 b := by
  intro z z' w hm hw
  cases hm with
  | altL h => exact ⟨Nat.zero_le _, (hr _ _ _ h hw).2⟩
  | altR h => exact ⟨Nat.zero_le _, Nat.le_trans (counts_eps _ _ _ h hw).2 (Nat.zero_le _)⟩

theorem Counts.times (hr : Counts q r a b) : ∀ n : Nat, Counts q (r.times n) (n * a) (n * b)
  | 0 => by
      rw [Nat.zero_mul, Nat.zero_mul]
      exact counts_eps
  | n + 1 => by
      have := hr.seq (hr.times n)
      rwa [Nat.add_comm a, Nat.add_comm b, ← Nat.succ_mul, ← Nat.succ_mul] at this

theorem Counts.upTo (hr : Counts q r a b) : ∀ n : Nat, Counts q (r.upTo n) 0 (n * b)
  | 0 => by
      rw [Nat.zero_mul]
      exact counts_eps
  | n + 1 => by
      have := (hr.seq (hr.upTo n)).opt
      rwa [Nat.add_comm b, ← Nat.succ_mul] at this

end Counts

/-- Every match of `r` reads a character of the class `q`. -/
def Needs (q : Char → Bool) (r : Re) : Prop :=
  ∀ (z z' : Place) (w : Str), Match r z z' → z.Reads w z' → ∃ c ∈ w, q c = true

section Needs

variable {q : Char → Bool} {r s : Re}

theorem needs_set {p : Char → Bool} (h : ∀ c, p c = true → q c = true) : Needs q (.set p) := by
  intro z z' w hm hw
  cases hm with
  | @set _ b c a hc =>
      obtain ⟨d, t, rfl⟩ := List.exists_cons_of_ne_nil
        (by rintro rfl; simpa using hw.after_length : w ≠ [])
      have : c = d := by simpa using congrArg List.head? hw.1
      exact ⟨d, List.mem_cons_self, h d (this ▸ hc)⟩

theorem Needs.left (hr : Needs q r) : Needs q (.seq r s) := by
  intro z z' w hm hw
  cases hm with
  | seq h₁ h₂ =>
      obtain ⟨w₁, w₂, hw₁, hw₂, rfl⟩ := h₁.reads_append h₂ hw
      obtain ⟨c, hc, hq⟩ := hr _ _ _ h₁ hw₁
      exact ⟨c, List.mem_append_left _ hc, hq⟩

theorem Needs.right (hs : Needs q s) : Needs q (.seq r s) := by
  intro z z' w hm hw
  cases hm with
  | seq h₁ h₂ =>
      obtain ⟨w₁, w₂, hw₁, hw₂, rfl⟩ := h₁.reads_append h₂ hw
      obtain ⟨c, hc, hq⟩ := hs _ _ _ h₂ hw₂
      exact ⟨c, List.mem_append_right _ hc, hq⟩

end Needs

theorem Match.cat_append {rs ss : List Re} {z z' : Place} (h : Match (cat (rs ++ ss)) z z') :
    ∃ z₁, Match (cat rs) z z₁ ∧ Match (cat ss) z₁ z' := by
  induction rs generalizing z with
  | nil => exact ⟨z, .eps z, h⟩
  | cons r rs ih =>
      cases h with
      | seq h₁ h₂ =>
          obtain ⟨z₁, h₃, h₄⟩ := ih h₂
          exact ⟨z₁, .seq h₁ h₃, h₄⟩

/-! ### Matches between word boundaries -/

/-- Every match of `r` starts and ends at a `\b`. -/
def Bounded (w : Char → Bool) (r : Re) : Prop :=
  ∀ z z', Match r z z' → z.boundary w = true ∧ z'.boundary w = true

theorem bounded_cat (w : Char → Bool) (rs : List Re) :
    Bounded w (cat (.bound w :: (rs ++ [.bound w]))) := by
  intro z z' hm
  cases hm with
  | seq h₁ h₂ =>
      cases h₁ with
      | bound hz =>
          obtain ⟨z₁, -, h₃⟩ := h₂.cat_append
          cases h₃ with
          | seq h₃ h₄ =>
              cases h₃ with
              | bound hz' =>
                  cases h₄ with
                  | eps => exact ⟨hz, hz'⟩

/-- There is no boundary inside a word. -/
theorem boundary_inside {w : Char → Bool} {u k v : Str} (hk : ∀ c ∈ k, w c = true) {z : Place}
    (ht : z.text = u ++ (k ++ v)) (h₁ : u.length < z.pos) (h₂ : z.pos < u.length + k.length) :
    z.boundary w = false := by
  obtain ⟨⟨b, a⟩, rfl, rfl⟩ := Place.exists_within u k v ht (Nat.le_of_lt h₁) (Nat.le_of_lt h₂)
  rw [Place.pos_within] at h₁ h₂
  cases b with
  | nil => simp [Place.pos] at h₁
  | cons c b =>
      cases a with
      | nil => simp [Place.text, Place.pos] at h₂
      | cons d a =>
          have hc : w c = true := hk c (by simp [Place.text])
          have hd : w d = true := hk d (by simp [Place.text])
          simp [Place.boundary, Place.within, hc, hd]

/-- **A word of the text** is read whole by a match between boundaries, or left alone. -/
theorem Match.beside_or_reads {w : Char → Bool} {r : Re} (hr : Bounded w r) {z z' : Place}
    (hm : Match r z z') {u k v : Str} (hk : ∀ c ∈ k, w c = true) (ht : z.text = u ++ (k ++ v)) :
    z'.pos ≤ u.length ∨ u.length + k.length ≤ z.pos ∨ ∃ s, z.Reads s z' ∧ k <:+: s := by
  obtain ⟨s, hs⟩ := hm.reads
  obtain ⟨hz, hz'⟩ := hr z z' hm
  have outside : ∀ y : Place, y.text = u ++ (k ++ v) → y.boundary w = true →
      y.pos ≤ u.length ∨ u.length + k.length ≤ y.pos := by
    intro y hy hb
    by_contra hno
    rw [boundary_inside hk hy (by omega) (by omega)] at hb
    cases hb
  rcases outside z ht hz with h₁ | h₁
  · rcases outside z' (hs.text_eq.trans ht) hz' with h₂ | h₂
    · exact .inl h₂
    · -- the match goes over the word
      refine .inr (.inr ⟨s, hs, ?_⟩)
      have hpos := hs.pos_eq
      have split : z.before.reverse ++ (s ++ z'.after) = u ++ (k ++ v) := by
        rw [← hs.1]
        exact ht
      obtain ⟨x, rfl⟩ : z.before.reverse <+: u :=
        List.prefix_of_prefix_length_le ⟨_, split⟩ (List.prefix_append u _)
          (by rwa [List.length_reverse])
      rw [List.append_assoc, List.append_cancel_left_eq] at split
      have hp : x ++ k <+: s := by
        refine List.prefix_of_prefix_length_le ⟨v, ?_⟩ (List.prefix_append s z'.after) ?_
        · rw [split, List.append_assoc]
        · simp only [Place.pos, List.length_append, List.length_reverse] at hpos h₂ ⊢
          omega
      exact (List.suffix_append x k).isInfix.trans hp.isInfix
  · exact .inr (.inl h₁)

/-! ### Expressions that agree on some characters -/

/-- `r` and `s` differ at most in what their classes say of characters beyond `P`. -/
def Agree (P : Char → Prop) : Re → Re → Prop
  | .eps, .eps => True
  | .set p, .set q => ∀ c, P c → p c = q c
  | .bound v, .bound w => ∀ c, P c → v c = w c
  | .seq r r', .seq s s' => Agree P r s ∧ Agree P r' s'
  | .alt r r', .alt s s' => Agree P r s ∧ Agree P r' s'
  | .star lzy r, .star lzy' s => lzy = lzy' ∧ Agree P r s
  | _, _ => False

theorem Agree.refl {P : Char → Prop} : ∀ r : Re, Agree P r r
  | .eps => trivial
  | .set _ | .bound _ => fun _ _ => rfl
  | .seq r s | .alt r s => ⟨Agree.refl r, Agree.refl s⟩
  | .star _ r => ⟨rfl, Agree.refl r⟩

theorem Agree.symm {P : Char → Prop} : ∀ {r s : Re}, Agree P r s → Agree P s r
  | .eps, .eps, _ => trivial
  | .set _, .set _, h | .bound _, .bound _, h => fun c hc => (h c hc).symm
  | .seq _ _, .seq _ _, h | .alt _ _, .alt _ _, h => ⟨h.1.symm, h.2.symm⟩
  | .star _ _, .star _ _, h => ⟨h.1.symm, h.2.symm⟩

theorem Agree.times {P : Char → Prop} {r s : Re} (h : Agree P r s) :
    ∀ n, Agree P (Re.times n r) (Re.times n s)
  | 0 => trivial
  | n + 1 => ⟨h, h.times n⟩

theorem Agree.upTo {P : Char → Prop} {r s : Re} (h : Agree P r s) :
    ∀ n, Agree P (Re.upTo n r) (Re.upTo n s)
  | 0 => trivial
  | n + 1 => ⟨⟨h, h.upTo n⟩, trivial⟩

theorem boundary_agree {P : Char → Prop} {v w : Char → Bool} (h : ∀ c, P c → v c = w c) {z : Place}
    (hz : ∀ c ∈ z.text, P c) : z.boundary v = z.boundary w := by
  have same : ∀ o : Option Char, (∀ c, o = some c → c ∈ z.text) → o.any v = o.any w := by
    intro o ho
    cases o with
    | none => rfl
    | some c => exact h c (hz c (ho c rfl))
  unfold Place.boundary
  rw [same _ fun c hc => by simp [Place.text, List.mem_of_head? hc],
    same _ fun c hc => by simp [Place.text, List.mem_of_head? hc]]

/-- In a text of characters they agree on, what one matches the other does. -/
theorem Match.agree {P : Char → Prop} {r : Re} {z z' : Place} (h : Match r z z') :
    ∀ {s : Re}, Agree P r s → (∀ c ∈ z.text, P c) → Match s z z' := by
  induction h with
  | eps z =>
      intro s hs _
      cases s with
      | eps => exact .eps z
      | _ => exact hs.elim
  | @set p b c a hc =>
      intro s hs hz
      cases s with
      | set q => exact .set ((hs c (hz c (by simp [Place.text]))) ▸ hc)
      | _ => exact hs.elim
  | @bound w z hb =>
      intro s hs hz
      cases s with
      | bound v => exact .bound (boundary_agree hs hz ▸ hb)
      | _ => exact hs.elim
  | seq h₁ _ ih₁ ih₂ =>
      intro s hs hz
      cases s with
      | seq s s' =>
          obtain ⟨_, hw⟩ := h₁.reads
          exact .seq (ih₁ hs.1 hz) (ih₂ hs.2 (hw.text_eq ▸ hz))
      | _ => exact hs.elim
  | altL _ ih =>
      intro s hs hz
      cases s with
      | alt s s' => exact .altL (ih hs.1 hz)
      | _ => exact hs.elim
  | altR _ ih =>
      intro s hs hz
      cases s with
      | alt s s' => exact .altR (ih hs.2 hz)
      | _ => exact hs.elim
  | starNil z =>
      intro s hs _
      cases s with
      | star lzy' s => exact .starNil z
      | _ => exact hs.elim
  | starCons h₁ hlt _ ih₁ ih₂ =>
      intro s hs hz
      cases s with
      | star lzy' s =>
          obtain ⟨_, hw⟩ := h₁.reads
          exact .starCons (ih₁ hs.2 hz) hlt (ih₂ hs (hw.text_eq ▸ hz))
      | _ => exact hs.elim

/-! ### Searching -/

/-- The end of the match that the matcher takes at `z`. -/
def matchAt (r : Re) (z : Place) : Option Place := (r.ends z).head?

/-- Where no match runs past the inside, the matcher takes what it takes in `text` alone. -/
theorem matchAt_within {pre post : Str} {r : Re} (hr : Sealed pre post r) {z : Place}
    (hin : ∀ y, Match r (z.within pre post) y → y.inside post.length = true) :
    r.matchAt (z.within pre post) = (r.matchAt z).map (Place.within pre post) := by
  have hall : (r.ends (z.within pre post)).filter (Place.inside post.length) =
      r.ends (z.within pre post) :=
    List.filter_eq_self.mpr fun y hy => hin y ((mem_ends_iff r _ y).mp hy)
  rw [ends_within hr] at hall
  rw [matchAt, matchAt, ← hall, List.head?_map]

/-- `r.search`, from the place between `b` and `a` on. -/
def searchFrom (r : Re) : Str → Str → Bool
  | b, [] => !(r.ends ⟨b, []⟩).isEmpty
  | b, c :: a => !(r.ends ⟨b, c :: a⟩).isEmpty || searchFrom r (c :: b) a

/-- `r.search(s) is not None` -/
def search (r : Re) (s : Str) : Bool := r.searchFrom [] s

/-- The spans `r.finditer` reports from the place between `b` and `a` on, after `k` more
characters of the last match. -/
def scan (r : Re) : Nat → Str → Str → List (Nat × Nat)
  | _, _, [] => []
  | k + 1, b, c :: a => scan r k (c :: b) a
  | 0, b, c :: a =>
      match r.matchAt ⟨b, c :: a⟩ with
      | some z =>
          if b.length < z.pos then (b.length, z.pos) :: scan r (z.pos - b.length - 1) (c :: b) a
          else scan r 0 (c :: b) a
      | none => scan r 0 (c :: b) a

/-- `[m.span() for m in r.finditer(s)]`, for an expression that never matches the empty text. -/
def findAll (r : Re) (s : Str) : List (Nat × Nat) := r.scan 0 [] s

theorem matchAt_match {r : Re} {z z' : Place} (h : r.matchAt z = some z') : Match r z z' :=
  (mem_ends_iff r z z').mp (List.mem_of_head? h)

theorem exists_matchAt {r : Re} {z z' : Place} (h : Match r z z') : ∃ y, r.matchAt z = some y := by
  rw [← mem_ends_iff] at h
  cases hl : r.ends z with
  | nil => rw [hl] at h; cases h
  | cons y l => exact ⟨y, by rw [matchAt, hl]; rfl⟩

theorem isEmpty_ends_iff {r : Re} {z : Place} :
    (r.ends z).isEmpty = false ↔ ∃ z', Match r z z' := by
  rw [List.isEmpty_eq_false_iff_exists_mem]
  simp only [mem_ends_iff]

/-- A place at or after the place between `b` and `a` is that place or one after its next
character. -/
theorem eq_or_pos_lt {b a : Str} {z : Place} (ht : z.text = b.reverse ++ a)
    (hp : b.length ≤ z.pos) : z = ⟨b, a⟩ ∨ b.length < z.pos := by
  rcases Nat.eq_or_lt_of_le hp with h | h
  · exact .inl (Place.eq_of_pos ht h.symm)
  · exact .inr h

theorem searchFrom_iff (r : Re) : ∀ (a b : Str), r.searchFrom b a = true ↔
    ∃ z z', z.text = b.reverse ++ a ∧ b.length ≤ z.pos ∧ Match r z z'
  | [], b => by
      simp only [searchFrom, Bool.not_eq_true', isEmpty_ends_iff]
      constructor
      · rintro ⟨z', h⟩
        exact ⟨⟨b, []⟩, z', rfl, Nat.le_refl _, h⟩
      · rintro ⟨z, z', ht, hp, h⟩
        rcases eq_or_pos_lt ht hp with rfl | hlt
        · exact ⟨z', h⟩
        · have := congrArg List.length ht
          simp only [Place.text, Place.pos, List.length_append, List.length_reverse,
            List.length_nil] at this hlt
          omega
  | c :: a, b => by
      simp only [searchFrom, Bool.or_eq_true, Bool.not_eq_true', isEmpty_ends_iff,
        searchFrom_iff r a (c :: b)]
      constructor
      · rintro (⟨z', h⟩ | ⟨z, z', ht, hp, h⟩)
        · exact ⟨⟨b, c :: a⟩, z', rfl, Nat.le_refl _, h⟩
        · exact ⟨z, z', by simpa using ht, by simp at hp; omega, h⟩
      · rintro ⟨z, z', ht, hp, h⟩
        rcases eq_or_pos_lt ht hp with rfl | hlt
        · exact .inl ⟨z', h⟩
        · exact .inr ⟨z, z', by simpa using ht, by simp; omega, h⟩

/-- **`search` finds something exactly when some place of the text starts a match.** -/
theorem search_iff (r : Re) (s : Str) :
    r.search s = true ↔ ∃ z z', z.text = s ∧ Match r z z' := by
  rw [search, searchFrom_iff]
  simp

/-- **Expressions that agree** on the characters of a text find something in it together. -/
theorem search_agree {P : Char → Prop} {r s : Re} (h : Agree P r s) {t : Str}
    (ht : ∀ c ∈ t, P c) : r.search t = s.search t := by
  have half : ∀ {r s : Re}, Agree P r s → r.search t = true → s.search t = true := by
    intro r s h hr
    rw [search_iff] at hr ⊢
    obtain ⟨z, z', hz, hm⟩ := hr
    exact ⟨z, z', hz, hm.agree h (hz ▸ ht)⟩
  exact Bool.eq_iff_iff.mpr ⟨half h, half h.symm⟩

/-- Nothing is found in a text shorter than every match. -/
theorem search_eq_false_of_length {r : Re} {s : Str} (h : s.length < r.minLen) :
    r.search s = false := by
  rw [← Bool.not_eq_true, search_iff]
  rintro ⟨z, z', rfl, hm⟩
  have := hm.minLen_le
  simp only [Place.text, List.length_append] at h
  omega

/-- Nothing is found in a text without a character that every match reads. -/
theorem search_eq_false_of_needs {q : Char → Bool} {r : Re} (hr : Needs q r) {s : Str}
    (h : ∀ c ∈ s, q c = false) : r.search s = false := by
  rw [← Bool.not_eq_true, search_iff]
  rintro ⟨z, z', rfl, hm⟩
  obtain ⟨w, hw⟩ := hm.reads
  obtain ⟨c, hc, hq⟩ := hr _ _ _ hm hw
  rw [h c (by simp [Place.text, hw.1, hc])] at hq
  cases hq

/-- **Separators.**  A character that `r` is blind to splits the search. -/
theorem search_append_cons {d : Char} {r : Re} (h : r.blind d = true) (u v : Str) :
    r.search (u ++ d :: v) = (r.search u || r.search v) := by
  have left : Sealed [] (d :: v) r := sealed_of_blind (by simp) (by simpa using h)
  have right : Sealed (u ++ [d]) [] r := sealed_of_blind (by simpa using h) (by simp)
  rw [Bool.eq_iff_iff, Bool.or_eq_true, search_iff, search_iff, search_iff]
  constructor
  · rintro ⟨z, z', ht, hm⟩
    by_cases hp : z.pos ≤ u.length
    · -- the match starts in `u`, and cannot read `d`
      obtain ⟨z₀, ht₀, rfl⟩ := Place.exists_within [] u (d :: v) (by simpa using ht)
        (Nat.zero_le _) (by simpa using hp)
      have hin := hm.inside_of_over (over_of_blind h) (by simp)
      obtain ⟨z₁, -, hm⟩ := hm.of_within left hin
      exact .inl ⟨z₀, z₁, ht₀, hm⟩
    · -- the match starts in `v`
      have hlen := congrArg List.length ht
      simp only [Place.text, List.length_append, List.length_reverse, List.length_cons] at hlen
      obtain ⟨z₀, ht₀, rfl⟩ := Place.exists_within (u ++ [d]) v []
        (by simpa using ht) (by simp; omega) (by simp only [Place.pos]; simp; omega)
      obtain ⟨z₁, -, hm⟩ := hm.of_within right (by simp [Place.inside])
      exact .inr ⟨z₀, z₁, ht₀, hm⟩
  · rintro (⟨z, z', rfl, hm⟩ | ⟨z, z', rfl, hm⟩)
    · exact ⟨_, _, by simp, hm.within left⟩
    · exact ⟨_, _, by simp, hm.within right⟩

/-- What is found in a text is found in a longer one, where the seams are sealed. -/
theorem search_within {pre post : Str} {r : Re} (hr : Sealed pre post r) {t : Str}
    (h : r.search t = true) : r.search (pre ++ (t ++ post)) = true := by
  rw [search_iff] at h ⊢
  obtain ⟨z, z', rfl, hm⟩ := h
  exact ⟨_, _, Place.text_within pre post z, hm.within hr⟩

/-- **Joined texts.**  What is found in one of several texts is found in them all, joined by a
character that the expression does not see. -/
theorem search_join {d : Char} {r : Re} (hr : r.unseen d = true) {t : Str} {parts : List Str}
    (ht : t ∈ parts) (h : r.search t = true) : r.search (join [d] parts) = true := by
  obtain ⟨pre, post, hj, hpre, hpost⟩ := join_eq_of_mem d ht
  rw [hj]
  exact search_within (sealed_of_unseen hpre hpost hr) h

/-- What `finditer` reports is what the matcher takes at some place. -/
theorem mem_scan {r : Re} : ∀ {a b : Str} {k i j : Nat}, (i, j) ∈ r.scan k b a →
    ∃ z z', z.text = b.reverse ++ a ∧ b.length + k ≤ i ∧ z.pos = i ∧ z'.pos = j ∧ i < j ∧
      r.matchAt z = some z'
  | [], b, k, i, j, h => by cases k <;> cases h
  | c :: a, b, k + 1, i, j, h => by
      obtain ⟨z, z', ht, hk, hi, hj, hlt, hm⟩ := mem_scan (r := r) (a := a) (b := c :: b) h
      exact ⟨z, z', by simpa using ht, by simp at hk; omega, hi, hj, hlt, hm⟩
  | c :: a, b, 0, i, j, h => by
      have next : ∀ {k}, (i, j) ∈ r.scan k (c :: b) a → ∃ z z', z.text = b.reverse ++ c :: a ∧
          b.length + 0 ≤ i ∧ z.pos = i ∧ z'.pos = j ∧ i < j ∧ r.matchAt z = some z' := by
        intro k h
        obtain ⟨z, z', ht, hk, hi, hj, hlt, hm⟩ := mem_scan h
        exact ⟨z, z', by simpa using ht, by simp at hk; omega, hi, hj, hlt, hm⟩
      simp only [scan] at h
      split at h
      · rename_i z' hz'
        split at h
        · rename_i hlt
          rcases List.mem_cons.mp h with h | h
          · cases h
            exact ⟨⟨b, c :: a⟩, z', rfl, by simp, rfl, rfl, hlt, hz'⟩
          · exact next h
        · exact next h
      · exact next h

/-- Every place that starts a match lies in a reported span. -/
theorem exists_scan {r : Re} (hr : 0 < r.minLen) : ∀ {a b : Str} {k : Nat} {z z' : Place},
    z.text = b.reverse ++ a → b.length + k ≤ z.pos → Match r z z' →
      ∃ x ∈ r.scan k b a, x.1 ≤ z.pos ∧ z.pos < x.2
  | [], b, k, z, z', ht, hp, h => by
      have hlen := congrArg List.length ht
      simp only [Place.text, List.length_append, List.length_reverse, List.length_nil] at hlen
      have := h.minLen_le
      simp only [Place.pos] at hp
      omega
  | c :: a, b, k + 1, z, z', ht, hp, h => by
      simp only [scan]
      exact exists_scan hr (by simpa using ht) (by simp; omega) h
  | c :: a, b, 0, z, z', ht, hp, h => by
      simp only [scan]
      rcases eq_or_pos_lt ht hp with rfl | hlt
      · obtain ⟨y, hy⟩ := exists_matchAt h
        have hpos : b.length < y.pos := by
          obtain ⟨w, hw⟩ := (matchAt_match hy).reads
          have hl := hw.after_length
          have := (matchAt_match hy).minLen_le
          rw [hw.pos_eq]
          show b.length < b.length + w.length
          omega
        rw [hy]
        simp only [if_pos hpos]
        exact ⟨_, List.mem_cons_self, Nat.le_refl _, hpos⟩
      · split
        · rename_i y hy
          split
          · rename_i hb
            -- `z` lies in the span reported here, or the scan goes on behind it
            by_cases hc : z.pos < y.pos
            · exact ⟨_, List.mem_cons_self, Nat.le_of_lt hlt, hc⟩
            · obtain ⟨x, hx, hx'⟩ := exists_scan hr (a := a) (b := c :: b)
                (k := y.pos - b.length - 1) (by simpa using ht) (by simp; omega) h
              exact ⟨x, List.mem_cons_of_mem _ hx, hx'⟩
          · exact exists_scan hr (by simpa using ht) (by simp; omega) h
        · exact exists_scan hr (by simpa using ht) (by simp; omega) h

/-- A reported span, and the match the matcher took there. -/
theorem mem_findAll {r : Re} {s : Str} {i j : Nat} (h : (i, j) ∈ r.findAll s) :
    ∃ z z', z.text = s ∧ z.pos = i ∧ z'.pos = j ∧ i < j ∧ r.matchAt z = some z' := by
  obtain ⟨z, z', ht, -, hi, hj, hlt, hm⟩ := mem_scan h
  exact ⟨z, z', ht, hi, hj, hlt, hm⟩

theorem findAll_le_length {r : Re} {s : Str} {i j : Nat} (h : (i, j) ∈ r.findAll s) :
    j ≤ s.length := by
  obtain ⟨z, z', ht, -, hj, -, hm⟩ := mem_findAll h
  obtain ⟨w, hw⟩ := (matchAt_match hm).reads
  rw [← ht, ← hw.text_eq, ← hj]
  simp [Place.text, Place.pos]

/-- **`finditer` reports something exactly when `search` does.** -/
theorem findAll_ne_nil_iff {r : Re} (hr : 0 < r.minLen) (s : Str) :
    r.findAll s ≠ [] ↔ r.search s = true := by
  rw [search_iff]
  constructor
  · intro h
    obtain ⟨⟨i, j⟩, hx⟩ := List.exists_mem_of_ne_nil _ h
    obtain ⟨z, z', ht, -, -, -, hm⟩ := mem_findAll hx
    exact ⟨z, z', ht, matchAt_match hm⟩
  · rintro ⟨z, z', ht, hm⟩ h
    obtain ⟨x, hx, -⟩ := exists_scan hr (b := []) (k := 0) (by simpa using ht) (by simp) hm
    rw [findAll] at h
    rw [h] at hx
    cases hx

end Re

end Support

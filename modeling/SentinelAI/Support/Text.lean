import Mathlib.Data.Char
import Mathlib.Data.List.Dedup
import Mathlib.Data.List.DropRight
import Mathlib.Data.List.Infix
import Mathlib.Data.List.Lex
import Mathlib.Data.List.Sort

/-!
# Support — Text

Texts: Python's `str`, as a list of code points, less the strings in which a lone surrogate stands
(`PyStr` has those too), and the operations on them that depend on the Unicode character database:
`isspace`, `isalnum`, `isdecimal`, `strip`, `lower`.

The operations are defined outright on ASCII, and white space is defined outright everywhere.  What
the interpreter reads from its database beyond ASCII is the structure `Ucd`: which characters are
alphanumeric, which are decimal digits, and how a character is lowercased in its context (a capital
sigma ends a word or not).  Its fields carry the facts every version of the database has.

* `canon` is `name.strip().lower()`; `canon_canon` says that it is a normal form.
-/

namespace Support

/-- A text: a Python string without lone surrogates.  These are the strings that have a UTF-8
encoding; what the code does with any other is said on `PyStr`. -/
abbrev Str := List Char

instance : Coe String Str := ⟨String.toList⟩

/-- The shortcut that every `∈` on texts takes. -/
instance : LawfulBEq Str := List.instLawfulBEq

def isAscii (c : Char) : Bool := c.toNat < 128

/-- `str.isspace` on one character, and `\s`. -/
def isSpace (c : Char) : Bool :=
  let n := c.toNat
  (9 ≤ n && n ≤ 13) || (28 ≤ n && n ≤ 32) || n == 0x85 || n == 0xa0 || n == 0x1680 ||
    (0x2000 ≤ n && n ≤ 0x200a) || n == 0x2028 || n == 0x2029 || n == 0x202f || n == 0x205f ||
    n == 0x3000

/-- The Unicode character database, beyond ASCII. -/
structure Ucd where
  /-- `str.isalnum` -/
  alnum : Char → Bool
  /-- `str.isdecimal` -/
  decimal : Char → Bool
  /-- What `c` becomes under `str.lower` between the text before it, nearest character first, and
  the text after it. -/
  lowerAt : Str → Char → Str → Str
  alnum_of_decimal : ∀ c, decimal c = true → alnum c = true
  alnum_not_space : ∀ c, alnum c = true → isSpace c = false
  lower_ne_nil : ∀ pre c post, lowerAt pre c post ≠ []
  lower_space : ∀ pre c post, isSpace c = true → lowerAt pre c post = [c]
  lower_not_space : ∀ pre c post, isSpace c = false → ∀ d ∈ lowerAt pre c post, isSpace d = false
  lower_ascii : ∀ pre c post, isAscii c = false → ∀ d ∈ lowerAt pre c post, isAscii d = true →
    d.isLower = true
  lower_lower : ∀ pre c post, ∀ d ∈ lowerAt pre c post, isAscii d = false →
    ∀ pre' post', lowerAt pre' d post' = [d]

/-- A database that knows no character beyond ASCII. -/
def Ucd.ascii : Ucd where
  alnum _ := false
  decimal _ := false
  lowerAt _ c _ := [c]
  alnum_of_decimal _ h := h
  alnum_not_space _ h := by cases h
  lower_ne_nil := by simp
  lower_space := by simp
  lower_not_space := by simp
  lower_ascii _ c _ h d hd hd' := by
    rw [List.mem_singleton] at hd
    rw [hd, h] at hd'
    cases hd'
  lower_lower := by simp

namespace Ucd

variable (U : Ucd)

/-- `\w` -/
def isWord (c : Char) : Bool := if isAscii c then c.isAlphanum || c == '_' else U.alnum c

/-- `\d` -/
def isDigit (c : Char) : Bool := if isAscii c then c.isDigit else U.decimal c

/-- One character of `str.lower`. -/
def lowerChar (pre : Str) (c : Char) (post : Str) : Str :=
  if isAscii c then [c.toLower] else U.lowerAt pre c post

/-- `str.lower` on the text that follows `pre`. -/
def lowerFrom : Str → Str → Str
  | _, [] => []
  | pre, c :: post => U.lowerChar pre c post ++ lowerFrom (c :: pre) post

/-- `str.lower` -/
def lower (s : Str) : Str := U.lowerFrom [] s

end Ucd

/-- `str.strip` -/
def strip (s : Str) : Str := (s.dropWhile isSpace).rdropWhile isSpace

/-- `str.upper` on ASCII text. -/
def upperAscii (s : Str) : Str := s.map Char.toUpper

/-- `sep.join(parts)` -/
def join (sep : Str) (parts : List Str) : Str := List.intercalate sep parts

/-- A part stands in the joined text, with separators before and after it, if anything. -/
theorem join_eq_of_mem (d : Char) {t : Str} : ∀ {parts : List Str}, t ∈ parts →
    ∃ pre post, join [d] parts = pre ++ (t ++ post) ∧
      (∀ c, pre.getLast? = some c → c = d) ∧ ∀ c, post.head? = some c → c = d
  | [p], h => by
      obtain rfl := List.mem_singleton.mp h
      exact ⟨[], [], by simp [join], by simp, by simp⟩
  | p :: q :: parts, h => by
      have joined : join [d] (p :: q :: parts) = p ++ d :: join [d] (q :: parts) := by
        rw [join, List.intercalate_cons_cons, List.append_assoc]
        rfl
      rw [joined]
      by_cases hp : t = p
      · subst hp
        exact ⟨[], d :: join [d] (q :: parts), rfl, by simp, by simp⟩
      · obtain ⟨pre, post, hj, hpre, hpost⟩ :=
          join_eq_of_mem d ((List.mem_cons.mp h).resolve_left hp)
        refine ⟨p ++ d :: pre, post, by rw [hj]; simp, fun c hc => ?_, hpost⟩
        -- the last character before `t` is the last of `pre`, or the separator
        rw [List.getLast?_append, List.getLast?_cons] at hc
        cases hl : pre.getLast? with
        | none => simpa [hl, eq_comm] using hc
        | some c' => exact hpre c (by simpa [hl] using hc)

/-- `sorted(set(l))` -/
def sortedSet (l : List Str) : List Str := l.dedup.insertionSort (· ≤ ·)

theorem mem_sortedSet {l : List Str} {s : Str} : s ∈ sortedSet l ↔ s ∈ l := by
  rw [sortedSet, (List.perm_insertionSort _ _).mem_iff, List.mem_dedup]

/-- `str.startswith` -/
def startsWith (s p : Str) : Bool := p.isPrefixOf s

/-- `s.split(" ", 1)[0]`, or `s.partition(" ")[0]`. -/
def firstWord (s : Str) : Str := s.takeWhile (· ≠ ' ')

/-- `s.replace(old, new)` for an `old` that is not empty, with `n` characters yet to be skipped. -/
def replaceFrom (old new : Str) : Nat → Str → Str
  | _, [] => []
  | n + 1, _ :: s => replaceFrom old new n s
  | 0, c :: s =>
      if old.isPrefixOf (c :: s) then new ++ replaceFrom old new (old.length - 1) s
      else c :: replaceFrom old new 0 s

/-- `str(n)` -/
def strInt (n : Int) : Str := (toString n).toList

namespace Ucd

variable (U : Ucd)

/-- `name.strip().lower()` -/
def canon (name : Str) : Str := U.lower (strip name)

end Ucd

/-! ### ASCII characters -/

/-- A property of ASCII characters is checked at each of the 128. -/
theorem forall_ascii {P : Char → Prop} (h : ∀ n < 128, P (Char.ofNat n)) {c : Char}
    (hc : isAscii c = true) : P c := by
  have := h c.toNat (by simpa [isAscii] using hc)
  rwa [Char.ofNat_toNat] at this

theorem isAscii_toLower {c : Char} (h : isAscii c = true) : isAscii c.toLower = true :=
  forall_ascii (P := fun c => isAscii c.toLower = true) (by decide) h

theorem toLower_toLower {c : Char} (h : isAscii c = true) : c.toLower.toLower = c.toLower :=
  forall_ascii (P := fun c => c.toLower.toLower = c.toLower) (by decide) h

theorem isSpace_toLower {c : Char} (h : isAscii c = true) : isSpace c.toLower = isSpace c :=
  forall_ascii (P := fun c => isSpace c.toLower = isSpace c) (by decide) h

theorem toLower_of_isLower {c : Char} (hc : isAscii c = true) (h : c.isLower = true) :
    c.toLower = c :=
  forall_ascii (P := fun c => c.isLower = true → c.toLower = c) (by decide) hc h

theorem isLower_toUpper (c : Char) : c.toUpper.isLower = false := by
  have hl : c.isLower = true ↔ 'a'.val ≤ c.val ∧ c.val ≤ 'z'.val := by
    change (decide ('a'.val ≤ c.val) && decide (c.val ≤ 'z'.val)) = true ↔ _
    rw [Bool.and_eq_true, decide_eq_true_iff, decide_eq_true_iff]
  cases h : c.isLower with
  | false =>
      have same : c.toUpper = c := dif_neg fun hr => by
        rw [hl.mpr hr] at h
        cases h
      rw [same, h]
  | true =>
      have ha : isAscii c = true := decide_eq_true (Nat.lt_of_le_of_lt (hl.mp h).2 (by decide))
      exact forall_ascii (P := fun c => c.toUpper.isLower = false) (by decide) ha

theorem not_isSpace_of_isAlphanum {c : Char} (hc : isAscii c = true)
    (h : (c.isAlphanum || c == '_') = true) : isSpace c = false :=
  forall_ascii (P := fun c => (c.isAlphanum || c == '_') = true → isSpace c = false) (by decide)
    hc h

namespace Ucd

variable (U : Ucd)

/-! ### Classes of characters -/

theorem isWord_of_isDigit {c : Char} (h : U.isDigit c = true) : U.isWord c = true := by
  unfold isDigit at h
  unfold isWord
  split at h
  · rename_i hc
    rw [if_pos hc, Char.isAlphanum, h]
    simp
  · rename_i hc
    rw [if_neg hc]
    exact U.alnum_of_decimal c h

theorem not_isSpace_of_isWord {c : Char} (h : U.isWord c = true) : isSpace c = false := by
  unfold isWord at h
  split at h
  · rename_i hc
    exact not_isSpace_of_isAlphanum hc h
  · exact U.alnum_not_space c h

theorem not_isSpace_of_isDigit {c : Char} (h : U.isDigit c = true) : isSpace c = false :=
  U.not_isSpace_of_isWord (U.isWord_of_isDigit h)

/-! ### Lowercase -/

/-- `c` is its own lowercase, wherever it stands. -/
def Lowered (c : Char) : Prop := ∀ pre post, U.lowerChar pre c post = [c]

theorem lowerChar_ne_nil (pre : Str) (c : Char) (post : Str) : U.lowerChar pre c post ≠ [] := by
  unfold lowerChar
  split
  · simp
  · exact U.lower_ne_nil pre c post

theorem lowered_of_mem_lowerChar {pre : Str} {c : Char} {post : Str} {d : Char}
    (hd : d ∈ U.lowerChar pre c post) : U.Lowered d := by
  intro pre' post'
  unfold lowerChar at hd ⊢
  split at hd
  · rename_i hc
    rw [List.mem_singleton] at hd
    rw [hd, if_pos (isAscii_toLower hc), toLower_toLower hc]
  · rename_i hc
    split
    · rename_i hd'
      have hl := U.lower_ascii pre c post (by simpa using hc) d hd hd'
      rw [toLower_of_isLower hd' hl]
    · rename_i hd'
      exact U.lower_lower pre c post d hd (by simpa using hd') pre' post'

theorem isSpace_of_mem_lowerChar {pre : Str} {c : Char} {post : Str} {d : Char}
    (hd : d ∈ U.lowerChar pre c post) : isSpace d = isSpace c := by
  unfold lowerChar at hd
  split at hd
  · rename_i hc
    rw [List.mem_singleton] at hd
    rw [hd, isSpace_toLower hc]
  · cases hc : isSpace c with
    | true =>
        rw [U.lower_space pre c post hc, List.mem_singleton] at hd
        rw [hd, hc]
    | false => exact U.lower_not_space pre c post hc d hd

theorem lowered_of_mem_lowerFrom {d : Char} :
    ∀ {pre s : Str}, d ∈ U.lowerFrom pre s → U.Lowered d
  | _, [], h => by cases h
  | pre, c :: post, h => by
      rcases List.mem_append.mp h with h | h
      · exact U.lowered_of_mem_lowerChar h
      · exact lowered_of_mem_lowerFrom h

theorem lowerFrom_eq_self :
    ∀ {pre s : Str}, (∀ c ∈ s, U.Lowered c) → U.lowerFrom pre s = s
  | _, [], _ => rfl
  | pre, c :: post, h => by
      rw [lowerFrom, h c (by simp), lowerFrom_eq_self fun d hd => h d (List.mem_cons_of_mem _ hd)]
      rfl

/-- Lowercasing twice is lowercasing once. -/
theorem lower_lower_eq (s : Str) : U.lower (U.lower s) = U.lower s :=
  U.lowerFrom_eq_self fun _ h => U.lowered_of_mem_lowerFrom h

theorem lowerFrom_ne_nil {pre s : Str} (h : s ≠ []) : U.lowerFrom pre s ≠ [] := by
  cases s with
  | nil => exact absurd rfl h
  | cons c post => simp [lowerFrom, U.lowerChar_ne_nil]

/-- An ASCII character that is no lowercase letter, and its own lowercase, is the lowercase of
itself only. -/
theorem eq_of_mem_lowerChar {pre : Str} {c : Char} {post : Str} {d : Char}
    (h : d ∈ U.lowerChar pre c post) (ha : isAscii d = true) (hl : d.isLower = false) : d = c := by
  unfold lowerChar at h
  split at h
  · rename_i hc
    rw [List.mem_singleton] at h
    have same : c.toLower.isLower = false → c.toLower = c :=
      forall_ascii (P := fun c => c.toLower.isLower = false → c.toLower = c) (by decide) hc
    rw [h, same (h ▸ hl)]
  · rename_i hc
    have letter := U.lower_ascii pre c post (by simpa using hc) d h ha
    rw [letter] at hl
    cases hl

/-- What the characters of `s` become, in their contexts. -/
structure LowerOf (s s' : Str) : Prop where
  ne_nil : s ≠ [] → s' ≠ []
  mem : ∀ d ∈ s', ∃ c ∈ s, ∃ pre post, d ∈ U.lowerChar pre c post

/-- The first part of a text is lowercased before the second. -/
theorem lowerFrom_append (pre s t : Str) :
    ∃ s', U.LowerOf s s' ∧ U.lowerFrom pre (s ++ t) = s' ++ U.lowerFrom (s.reverse ++ pre) t := by
  induction s generalizing pre with
  | nil => exact ⟨[], ⟨fun h => absurd rfl h, fun _ h => (List.not_mem_nil h).elim⟩, rfl⟩
  | cons c s ih =>
      obtain ⟨s', hs, he⟩ := ih (c :: pre)
      refine ⟨U.lowerChar pre c (s ++ t) ++ s', ⟨fun _ => ?_, fun d hd => ?_⟩, ?_⟩
      · exact List.append_ne_nil_of_left_ne_nil (U.lowerChar_ne_nil _ _ _) _
      · rcases List.mem_append.mp hd with hd | hd
        · exact ⟨c, List.mem_cons_self, pre, s ++ t, hd⟩
        · obtain ⟨c', hc', h⟩ := hs.mem d hd
          exact ⟨c', List.mem_cons_of_mem _ hc', h⟩
      · rw [List.cons_append, lowerFrom, he, List.append_assoc, List.reverse_cons,
          List.append_assoc, List.singleton_append]

theorem isSpace_head_lowerFrom {pre s : Str} {d : Char} (h : (U.lowerFrom pre s).head? = some d) :
    ∃ c, s.head? = some c ∧ isSpace d = isSpace c := by
  cases s with
  | nil => simp [lowerFrom] at h
  | cons c post =>
      have hd : d ∈ U.lowerChar pre c post := by
        rw [lowerFrom, List.head?_append_of_ne_nil _ (U.lowerChar_ne_nil pre c post)] at h
        exact List.mem_of_head? h
      exact ⟨c, rfl, U.isSpace_of_mem_lowerChar hd⟩

theorem isSpace_last_lowerFrom {d : Char} :
    ∀ {pre s : Str}, (U.lowerFrom pre s).getLast? = some d →
      ∃ c, s.getLast? = some c ∧ isSpace d = isSpace c
  | _, [], h => by simp [lowerFrom] at h
  | pre, [c], h => by
      have hd : d ∈ U.lowerChar pre c [] := by
        simp only [lowerFrom, List.append_nil] at h
        exact List.mem_of_getLast? h
      exact ⟨c, rfl, U.isSpace_of_mem_lowerChar hd⟩
  | pre, c :: c' :: post, h => by
      have hne : U.lowerFrom (c :: pre) (c' :: post) ≠ [] := U.lowerFrom_ne_nil (by simp)
      rw [lowerFrom, List.getLast?_append_of_ne_nil _ hne] at h
      obtain ⟨e, he, hs⟩ := isSpace_last_lowerFrom h
      exact ⟨e, by rw [List.getLast?_cons_cons, he], hs⟩

end Ucd

/-! ### `strip` -/

/-- `s` neither starts nor ends with white space. -/
def Stripped (s : Str) : Prop :=
  (∀ c, s.head? = some c → isSpace c = false) ∧ ∀ c, s.getLast? = some c → isSpace c = false

theorem strip_eq_self {s : Str} (h : Stripped s) : strip s = s := by
  unfold strip
  have hl : s.dropWhile isSpace = s := by
    cases s with
    | nil => rfl
    | cons c s => rw [List.dropWhile_cons_of_neg (by simp [h.1 c rfl])]
  rw [hl, List.rdropWhile_eq_self_iff]
  intro hne
  simp [h.2 _ (List.getLast?_eq_some_getLast hne)]

theorem stripped_strip (s : Str) : Stripped (strip s) := by
  constructor
  · intro c hc
    -- what is stripped on the right is a prefix, with the same first character
    have hpre := List.rdropWhile_prefix isSpace (s.dropWhile isSpace)
    have hd : (s.dropWhile isSpace).head? = some c := by
      obtain ⟨t, ht⟩ := hpre
      rw [← ht]
      cases hs : (s.dropWhile isSpace).rdropWhile isSpace with
      | nil => rw [strip, hs] at hc; cases hc
      | cons e r => rw [strip, hs] at hc; simpa using hc
    have := List.head?_dropWhile_not isSpace s
    rw [hd] at this
    simpa using this
  · intro c hc
    have hne : strip s ≠ [] := by rintro h; rw [h] at hc; cases hc
    have := List.rdropWhile_last_not isSpace (s.dropWhile isSpace) hne
    rw [List.getLast?_eq_some_getLast hne] at hc
    cases hc
    exact Bool.not_eq_true _ ▸ this

/-- What `strip` takes from the two ends of a text is white space. -/
theorem strip_between (s : Str) : ∃ left right, s = left ++ strip s ++ right ∧
    (∀ c ∈ left, isSpace c = true) ∧ ∀ c ∈ right, isSpace c = true := by
  refine ⟨s.takeWhile isSpace, (s.dropWhile isSpace).rtakeWhile isSpace, ?_, ?_, ?_⟩
  · rw [strip, List.append_assoc, List.rdropWhile_append_rtakeWhile,
      List.takeWhile_append_dropWhile]
  · exact fun c hc => List.mem_takeWhile_imp hc
  · intro c hc
    rw [List.rtakeWhile, List.mem_reverse] at hc
    exact List.mem_takeWhile_imp hc

namespace Ucd

variable (U : Ucd)

theorem stripped_lower {s : Str} (h : Stripped s) : Stripped (U.lower s) := by
  constructor
  · intro d hd
    obtain ⟨c, hc, hs⟩ := U.isSpace_head_lowerFrom hd
    rw [hs, h.1 c hc]
  · intro d hd
    obtain ⟨c, hc, hs⟩ := U.isSpace_last_lowerFrom hd
    rw [hs, h.2 c hc]

/-- **`canon` is a normal form.** -/
theorem canon_canon (name : Str) : U.canon (U.canon name) = U.canon name := by
  unfold canon
  rw [strip_eq_self (U.stripped_lower (stripped_strip name)), U.lower_lower_eq]

end Ucd

end Support

import SentinelAI.Proxy.PiiScanner

/-!
# Properties — Patterns

Facts about the four patterns of `pii_scanner.py` and the placeholders that replace their matches.

* `PiiPattern.search_out`: in a masked text a pattern finds what it finds in the stretches of the
  original that are left.
* `PiiPattern.matchAt_line`: where a pattern matches within a line, the lines around it change
  nothing.  Only a phone number can go over a newline, and then it has too few digits before it to
  be one within the line.
-/

namespace SentinelAI
open Support

variable {U : Ucd}

/-! ### Placeholders -/

/-- The labels of the patterns. -/
def patternLabels : List Str := PiiPattern.PATTERNS.map fun p => upperAscii p.name

theorem label_mem_patternLabels {text : Str} {s : Span Str} (h : s ∈ detected U none text) :
    s.label ∈ patternLabels := by
  obtain ⟨p, -, hl⟩ := mem_detected_none.mp h
  exact hl ▸ List.mem_map_of_mem p.mem_PATTERNS

/-- No pattern reads a bracket, or takes one for a word character. -/
theorem PiiPattern.blind_bracket :
    ∀ p : PiiPattern, (p.re U).blind '[' = true ∧ (p.re U).blind ']' = true
  | .email | .phone | .card | .api_key => ⟨rfl, rfl⟩

theorem placeholder_eq (label : Str) :
    placeholder label = '[' :: (("REDACTED_".toList ++ label) ++ [']']) := rfl

theorem placeholder_chars {label : Str} (h : label ∈ patternLabels) :
    ("REDACTED_".toList ++ label).length ≤ 16 ∧
      ∀ c ∈ "REDACTED_".toList ++ label, isAscii c = true ∧ c.isDigit = false ∧ c ≠ '@' := by
  have checked : ∀ l ∈ patternLabels, ("REDACTED_".toList ++ l).length ≤ 16 ∧
      ("REDACTED_".toList ++ l).all (fun c => isAscii c && !c.isDigit && c != '@') = true := by
    decide
  obtain ⟨length, chars⟩ := checked label h
  refine ⟨length, fun c hc => ?_⟩
  simpa [and_assoc] using List.all_eq_true.mp chars c hc

/-- Every e-mail address has an `@`. -/
theorem needs_email : Re.Needs (· == '@') (PiiPattern.email.re U) := by
  have sign : Re.Needs (· == '@') (Re.chr '@') := Re.needs_set fun _ h => h
  exact sign.left.right

/-- Nothing is found between the brackets of a placeholder: there is no `@` and no digit there,
and too little for a key. -/
theorem PiiPattern.search_placeholder (p : PiiPattern) {label : Str} (h : label ∈ patternLabels) :
    (p.re U).search ("REDACTED_".toList ++ label) = false := by
  obtain ⟨length, chars⟩ := placeholder_chars h
  have noDigit : ∀ c ∈ "REDACTED_".toList ++ label, U.isDigit c = false := fun c hc => by
    rw [Ucd.isDigit, if_pos (chars c hc).1, (chars c hc).2.1]
  have digits : Re.Needs U.isDigit (digit U) := Re.needs_set fun _ h => h
  cases p with
  | email => exact Re.search_eq_false_of_needs needs_email fun c hc => by simp [(chars c hc).2.2]
  | phone => exact Re.search_eq_false_of_needs digits.left.left.right.right.right noDigit
  | card => exact Re.search_eq_false_of_needs digits.left.left.left.left.right noDigit
  | api_key =>
      refine Re.search_eq_false_of_length (Nat.lt_of_le_of_lt length ?_)
      simp [re, Re.cat, Re.any, Re.atLeast, Re.times, Re.oneOf, Re.phrase, Re.minLen]

/-- In a masked text a pattern finds what it finds in the stretches that are left. -/
theorem PiiPattern.search_out (p : PiiPattern) (text : Str) (c : Nat) {K : List (Span Str)}
    (h : ∀ k ∈ K, k.label ∈ patternLabels) :
    (p.re U).search (Span.out placeholder text c K) =
      (Span.gaps text c K).any fun u => (p.re U).search u := by
  induction K generalizing c with
  | nil => simp [Span.out_nil, Span.gaps]
  | cons k K ih =>
      obtain ⟨hl, hK⟩ := List.forall_mem_cons.mp h
      have brackets : Span.out placeholder text c (k :: K) =
          (text.take k.start).drop c ++ '[' :: (("REDACTED_".toList ++ k.label) ++
            ']' :: Span.out placeholder text k.stop K) := by
        rw [Span.out_cons, placeholder_eq, List.cons_append, List.append_assoc,
          List.singleton_append]
      rw [brackets, Re.search_append_cons p.blind_bracket.1,
        Re.search_append_cons p.blind_bracket.2, p.search_placeholder hl, Bool.false_or,
        ih k.stop hK, Span.gaps, List.any_cons]

/-- No placeholder of a pattern is the start of another. -/
theorem placeholder_code {l l' u v : Str} (hl : l ∈ patternLabels) (hl' : l' ∈ patternLabels)
    (h : placeholder l ++ u = placeholder l' ++ v) : l = l' := by
  have close : ∀ l ∈ patternLabels, l.all (· != ']') = true := by decide
  simp only [placeholder_eq, List.cons_append, List.append_assoc, List.cons.injEq, true_and,
    List.append_cancel_left_eq, List.nil_append] at h
  -- the label is what stands before the closing bracket
  have upTo : ∀ l ∈ patternLabels, ∀ w : Str, (l ++ ']' :: w).takeWhile (· != ']') = l := by
    intro l hl w
    rw [List.takeWhile_append_of_pos (List.all_eq_true.mp (close l hl)),
      List.takeWhile_cons_of_neg (by simp), List.append_nil]
  rw [← upTo l hl u, h, upTo l' hl' v]

/-! ### Lines -/

theorem Ucd.not_isWord_newline : U.isWord '\n' = false := rfl

/-- The ends of a line are word characters to no pattern. -/
theorem PiiPattern.sealed_lines (p : PiiPattern) {pre post : Str}
    (hpre : ∀ d, pre.getLast? = some d → d = '\n') (hpost : ∀ d, post.head? = some d → d = '\n') :
    Re.Sealed pre post (p.re U) := by
  have before : pre.getLast?.any U.isWord = false := by
    rw [Option.any_eq_false]
    exact fun d hd => hpre d hd ▸ by simp [Ucd.not_isWord_newline]
  have after : post.head?.any U.isWord = false := by
    rw [Option.any_eq_false]
    exact fun d hd => hpost d hd ▸ by simp [Ucd.not_isWord_newline]
  cases p <;> simp [re, sep, digit, Re.cat, Re.any, Re.plus, Re.atLeast, Re.times, Re.between,
    Re.upTo, Re.opt, Re.chr, Re.oneOf, Re.phrase, Re.Sealed, before, after]

/-- A phone number before its last separator, and from there on. -/
def phoneHead (U : Ucd) : List Re :=
  [.bound U.isWord, Re.opt (Re.cat [Re.opt (Re.chr '+'), Re.between 1 3 (PiiPattern.digit U),
      PiiPattern.sep]),
    Re.opt (Re.chr '('), Re.times 3 (PiiPattern.digit U), Re.opt (Re.chr ')'), PiiPattern.sep,
    Re.times 3 (PiiPattern.digit U)]

def phoneTail (U : Ucd) : List Re := [Re.times 4 (PiiPattern.digit U), .bound U.isWord]

theorem phone_eq :
    PiiPattern.phone.re U = Re.cat (phoneHead U ++ PiiPattern.sep :: phoneTail U) := rfl

theorem counts_sep : Re.Counts U.isDigit PiiPattern.sep 0 0 := by
  refine Re.counts_of_over ⟨fun c hc => Bool.eq_false_iff.mpr fun hd => ?_, trivial⟩
  simp only [U.not_isSpace_of_isDigit hd, Bool.or_false, Bool.or_eq_true, beq_iff_eq] at hc
  rcases hc with rfl | rfl <;> cases hd

theorem counts_digits (n : Nat) :
    Re.Counts U.isDigit (Re.times n (PiiPattern.digit U)) (n * 1) (n * 1) :=
  (Re.counts_set fun _ h => h).times n

theorem counts_phoneHead : Re.Counts U.isDigit (Re.cat (phoneHead U)) 6 9 := by
  have bound : Re.Counts U.isDigit (.bound U.isWord) 0 0 := Re.counts_of_over trivial
  have sign : ∀ c, U.isDigit c = false → Re.Counts U.isDigit (Re.opt (Re.chr c)) 0 0 :=
    fun c hc => Re.counts_of_over ⟨fun d hd => by rwa [beq_iff_eq.mp hd], trivial⟩
  have country := ((sign '+' rfl).seq (((counts_digits 1).seq
    ((Re.counts_set fun _ h => h).upTo 2)).seq (counts_sep.seq Re.counts_eps))).opt
  exact (bound.seq (country.seq ((sign '(' rfl).seq ((counts_digits 3).seq ((sign ')' rfl).seq
    (counts_sep.seq ((counts_digits 3).seq Re.counts_eps))))))).mono (by decide) (by decide)

/-- A phone number has at least ten digits. -/
theorem phone_digits {z z' : Place} {w : Str} (h : Re.Match (PiiPattern.phone.re U) z z')
    (hw : z.Reads w z') : 10 ≤ w.countP U.isDigit := by
  have tail := counts_sep.seq ((counts_digits 4).seq
    ((Re.counts_of_over (r := .bound U.isWord) trivial).seq (Re.counts_eps (q := U.isDigit))))
  rw [phone_eq] at h
  obtain ⟨z₁, h₁, h₂⟩ := h.cat_append
  obtain ⟨w₁, w₂, hw₁, hw₂, rfl⟩ := h₁.reads_append h₂ hw
  have := (counts_phoneHead z z₁ w₁ h₁ hw₁).1
  have := (tail z₁ z' w₂ h₂ hw₂).1
  rw [List.countP_append]
  omega

/-- At most nine of them are on the lines before its last. -/
theorem phone_digits_before {z z' : Place} {u v : Str}
    (h : Re.Match (PiiPattern.phone.re U) z z') (hw : z.Reads (u ++ '\n' :: v) z') :
    u.countP U.isDigit ≤ 9 := by
  rw [phone_eq] at h
  obtain ⟨z₁, h₁, h₂⟩ := h.cat_append
  obtain ⟨w₁, hw₁⟩ := h₁.reads
  cases h₂ with
  | @seq _ _ _ z₂ _ hs ht =>
      obtain ⟨ws, hws⟩ := hs.reads
      obtain ⟨w₂, hw₂⟩ := ht.reads
      have hcat : u ++ '\n' :: v = (w₁ ++ ws) ++ w₂ :=
        List.append_cancel_right (hw.1.symm.trans ((hw₁.trans hws).trans hw₂).1)
      -- the part after the last separator is on one line
      have line : Re.Over (· ≠ '\n') (Re.cat (phoneTail U)) := by
        have digit : ∀ c, U.isDigit c = true → c ≠ '\n' := by
          rintro c hc rfl
          cases hc
        exact ⟨⟨digit, digit, digit, digit, trivial⟩, trivial, trivial⟩
      have hu : u <+: w₁ ++ ws := by
        rcases List.append_eq_append_iff.mp hcat with ⟨t, ht', -⟩ | ⟨t, -, ht'⟩
        · exact ⟨t, ht'.symm⟩
        · exact absurd rfl (ht.over line hw₂ '\n' (by rw [ht']; simp))
      have := hu.sublist.countP_le (p := U.isDigit)
      have := (counts_phoneHead _ _ _ h₁ hw₁).2
      have := (counts_sep (U := U) _ _ _ hs hws).2
      rw [List.countP_append] at *
      omega

/-- **Matches in a line.**  Where a pattern matches within a line, the matcher takes in the whole
text what it takes in the line alone. -/
theorem PiiPattern.matchAt_line (p : PiiPattern) {pre post : Str}
    (hpre : ∀ d, pre.getLast? = some d → d = '\n') (hpost : ∀ d, post.head? = some d → d = '\n')
    {y y' : Place} (h : Re.Match (p.re U) y y') :
    (p.re U).matchAt (y.within pre post) = ((p.re U).matchAt y).map (Place.within pre post) := by
  refine Re.matchAt_within (p.sealed_lines hpre hpost) fun x hx => ?_
  have blind : (p.re U).blind '\n' = true → x.inside post.length = true := fun hb =>
    hx.inside_of_over (Re.over_of_blind hb) fun d hd hn => hn (hpost d hd)
  cases p with
  | email => exact blind rfl
  | card => exact blind rfl
  | api_key => exact blind rfl
  | phone =>
      -- ten digits fit before the newline, and a number that goes over it has room for nine
      by_contra hlt
      obtain ⟨w, hw⟩ := h.reads
      obtain ⟨v, hv⟩ := hx.reads
      obtain ⟨d, r, hd, rfl⟩ := Re.reads_past hv (Bool.not_eq_true _ ▸ hlt)
      rw [hpost d hd] at hv
      have := phone_digits h hw
      have := phone_digits_before hx hv
      rw [hw.1, List.countP_append] at this
      omega

end SentinelAI

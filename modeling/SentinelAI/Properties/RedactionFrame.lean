import SentinelAI.Proxy.PiiScanner
import SentinelAI.Support.Interleaving

/-!
# Properties — RedactionFrame

What the merge loop of `redact_pii` leaves alone.

* `noCollateralDamage`: the returned text is a sequence of positions that are copied and of spans
  that are masked, in the order of the text.  Every position outside the spans is copied once, and
  every span that is kept is masked once.
* `redactPii_merged`: the text that `redact_pii` returns is the one that the loop merges.

What is copied besides is what a discarded span has beyond the spans that are kept.
-/

namespace SentinelAI
open Support

variable {text : Str} {D : List (Span Str)}

/-- The text that the loop merges, for the spans `D`. -/
def merged (text : Str) (D : List (Span Str)) : Str :=
  (redactLoop text 0 (Span.sorted D)).flatMap (Piece.render text placeholder)

/-- The positions that are copied and the spans that are masked. -/
def parts (text : Str) (D : List (Span Str)) : List (Span.Item Str) :=
  Span.items text.length 0 (Span.kept D)

def copied (text : Str) (D : List (Span Str)) : List Nat :=
  (parts text D).filterMap Span.Item.position?

/-- The spans that the loop passes over. -/
def discarded (D : List (Span Str)) : List (Span Str) := Span.discarded 0 (Span.sorted D)

/-- Nothing outside the spans is lost, doubled or moved. -/
structure NoCollateralDamage (text : Str) (D : List (Span Str)) : Prop where
  written : merged text D = (parts text D).flatMap (Span.Item.render text placeholder)
  inOrder : (parts text D).Pairwise fun a b => a.stop ≤ b.start
  /-- The positions outside the spans are copied, once each and in order. -/
  outside : (copied text D).filter (fun p => ¬Span.Covered D p) =
    (List.range text.length).filter fun p => ¬Span.Covered D p
  /-- Of the positions inside, those of a discarded span that no kept span covers. -/
  inside : (copied text D).filter (fun p => Span.Covered D p) =
    (List.range text.length).filter fun p =>
      Span.Covered (discarded D) p ∧ ¬Span.Covered (Span.kept D) p
  /-- One placeholder for each span that is kept. -/
  placeholders : (parts text D).filterMap Span.Item.masked? = Span.kept D
  disjoint : (Span.kept D).Pairwise fun a b => a.stop ≤ b.start
  kept_or_discarded : (Span.kept D ++ discarded D).Perm D
  starts_inside : ∀ d ∈ discarded D, ∃ k ∈ Span.kept D, k.Covers d.start
  /-- The loop considers the spans by where they start, and the longest first. -/
  considered : (Span.sorted D).Perm D ∧
    (Span.sorted D).Pairwise fun a b => a.start ≤ b.start ∧ (a.start = b.start → b.len ≤ a.len)

theorem merged_eq_out : merged text D = Span.out placeholder text 0 (Span.kept D) := by
  rw [merged, redactLoop_eq]
  rfl

/-- What `redact_pii` returns is the merged text. -/
theorem redactPii_merged (U : Ucd) (analyzer : Analyzer) (text : Str) :
    (redactPii U analyzer text).1 = merged text (detected U analyzer text) := by
  rw [redactPii_eq, merged_eq_out]

theorem kept_append_discarded : (Span.kept D ++ discarded D).Perm D :=
  (Span.select_append_discarded 0 (Span.sorted D)).trans (List.perm_insertionSort _ D)

theorem covered_iff {p : Nat} :
    Span.Covered D p ↔ Span.Covered (Span.kept D) p ∨ Span.Covered (discarded D) p := by
  have mem (d : Span Str) : d ∈ D ↔ d ∈ Span.kept D ∨ d ∈ discarded D :=
    kept_append_discarded.mem_iff.symm.trans List.mem_append
  simp only [Span.Covered, mem, or_and_right, exists_or]

section Bounds
variable (h : ∀ d ∈ D, d.start ≤ d.stop ∧ d.stop ≤ text.length)
include h

/-- The positions that are copied are those that no kept span covers. -/
theorem copied_eq : copied text D =
    (List.range text.length).filter fun p => ¬Span.Covered (Span.kept D) p := by
  rw [copied, parts, Span.positions_items (Span.chain_kept h), Span.between, Nat.sub_zero,
    List.range_eq_range']

theorem copied_outside : (copied text D).filter (fun p => ¬Span.Covered D p) =
    (List.range text.length).filter fun p => ¬Span.Covered D p := by
  rw [copied_eq h, List.filter_filter]
  refine List.filter_congr fun p _ => ?_
  have keeps : ¬Span.Covered D p → ¬Span.Covered (Span.kept D) p :=
    fun hp hk => hp (covered_iff.mpr (.inl hk))
  simpa using keeps

theorem copied_inside : (copied text D).filter (fun p => Span.Covered D p) =
    (List.range text.length).filter fun p =>
      Span.Covered (discarded D) p ∧ ¬Span.Covered (Span.kept D) p := by
  rw [copied_eq h, List.filter_filter]
  refine List.filter_congr fun p _ => ?_
  rw [← Bool.decide_and]
  refine decide_eq_decide.mpr ?_
  rw [covered_iff]
  tauto

/-- **Redaction causes no collateral damage.** -/
theorem noCollateralDamage : NoCollateralDamage text D where
  written := merged_eq_out.trans (Span.out_eq_flatMap placeholder (Span.chain_kept h))
  inOrder := Span.items_pairwise (Span.chain_kept h)
  outside := copied_outside h
  inside := copied_inside h
  placeholders := Span.masked_items
  disjoint := Span.select_pairwise (Span.sorted_pairwise D)
    (fun s hs => (h s (Span.mem_sorted.mp hs)).1) 0
  kept_or_discarded := kept_append_discarded
  starts_inside := fun _ hd =>
    (Span.covers_of_mem_discarded (Span.sorted_pairwise D) hd).resolve_left (Nat.not_lt_zero _)
  considered := ⟨List.perm_insertionSort _ D,
    (Span.sorted_pairwise D).imp fun hab => hab.longest⟩

end Bounds

/-- A name, an address and the phone number that hides its start: what it has beyond is copied. -/
theorem noCollateralDamage_tail :
    NoCollateralDamage "Bob: 555 123 4567@x.com".toList
      [⟨13, 23, "EMAIL".toList⟩, ⟨5, 17, "PHONE".toList⟩, ⟨0, 3, "PERSON".toList⟩] :=
  noCollateralDamage (by decide)

end SentinelAI

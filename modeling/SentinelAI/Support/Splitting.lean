import Mathlib.Data.List.Basic
import Mathlib.Data.List.Infix

/-!
# Support — Splitting

The parts of a list between separators, and the maximal runs of a kind of entry.

* `mem_splitOnP_iff`: a part is what stands between two separators, or an end and a separator.
* `splitOnP_between`: the parts of a stretch between separators are parts of the whole.
* `runs_map`: runs do not depend on what the other entries are.
-/

namespace Support

variable {α β : Type*} (p : α → Bool)

/-- The list is empty, or ends with a separator. -/
def EndsWith (l : List α) : Prop := ∀ c, l.getLast? = some c → p c = true

/-- The list is empty, or begins with a separator. -/
def BeginsWith (l : List α) : Prop := ∀ c, l.head? = some c → p c = true

variable {p}

theorem endsWith_concat {l : List α} {c : α} : EndsWith p (l ++ [c]) ↔ p c = true := by
  rw [EndsWith, List.getLast?_concat]
  exact ⟨fun h => h c rfl, fun h d hd => Option.some.inj hd ▸ h⟩

theorem EndsWith.cases {l : List α} (h : EndsWith p l) :
    l = [] ∨ ∃ l' c, l = l' ++ [c] ∧ p c = true := by
  rcases List.eq_nil_or_concat l with rfl | ⟨l', c, rfl⟩
  · exact .inl rfl
  · exact .inr ⟨l', c, List.concat_eq_append, endsWith_concat.mp (by simpa using h)⟩

theorem EndsWith.append {l l' : List α} (h : EndsWith p l) (h' : EndsWith p l') :
    EndsWith p (l ++ l') := by
  rcases h'.cases with rfl | ⟨l', c, rfl, hc⟩
  · rwa [List.append_nil]
  · rw [← List.append_assoc]
    exact endsWith_concat.mpr hc

/-- The parts of a stretch between separators are parts of the whole. -/
theorem splitOnP_between {pre s post : List α} (hpre : EndsWith p pre) (hpost : BeginsWith p post) :
    (s.splitOnP p).Sublist ((pre ++ s ++ post).splitOnP p) := by
  have after : (s.splitOnP p).Sublist ((s ++ post).splitOnP p) := by
    cases post with
    | nil => rw [List.append_nil]
    | cons c post =>
        rw [List.splitOnP_append_cons s post (hpost c rfl)]
        exact List.sublist_append_left _ _
  rcases hpre.cases with rfl | ⟨pre, c, rfl, hc⟩
  · simpa using after
  · rw [List.append_assoc, List.append_assoc, List.singleton_append,
      List.splitOnP_append_cons pre _ hc]
    exact after.trans (List.sublist_append_right _ _)

/-- A list has no separator, or a first one. -/
theorem first_separator (p : α → Bool) (l : List α) : (∀ c ∈ l, p c = false) ∨
    ∃ s c rest, l = s ++ c :: rest ∧ (∀ c ∈ s, p c = false) ∧ p c = true := by
  induction l with
  | nil => exact .inl fun c hc => absurd hc List.not_mem_nil
  | cons c l ih =>
      cases hc : p c with
      | true => exact .inr ⟨[], c, l, rfl, by simp, hc⟩
      | false =>
          rcases ih with none | ⟨s, d, rest, rfl, hs, hd⟩
          · exact .inl (List.forall_mem_cons.mpr ⟨hc, none⟩)
          · exact .inr ⟨c :: s, d, rest, rfl, List.forall_mem_cons.mpr ⟨hc, hs⟩, hd⟩

/-- **The parts** of a list: what has no separator, and stands between two of them. -/
theorem mem_splitOnP_iff {part l : List α} : part ∈ l.splitOnP p ↔ (∀ c ∈ part, p c = false) ∧
    ∃ pre post, l = pre ++ part ++ post ∧ EndsWith p pre ∧ BeginsWith p post := by
  constructor
  · induction hn : l.length using Nat.strong_induction_on generalizing l with
    | _ n ih =>
        rcases first_separator p l with none | ⟨s, c, rest, rfl, hs, hc⟩
        · rw [List.splitOnP_eq_singleton none, List.mem_singleton]
          rintro rfl
          exact ⟨none, [], [], by simp, by simp [EndsWith], by simp [BeginsWith]⟩
        · rw [List.splitOnP_append_cons_of_forall_mem hs c hc, List.mem_cons]
          rintro (rfl | hp)
          · exact ⟨hs, [], c :: rest, rfl, by simp [EndsWith], by simpa [BeginsWith] using hc⟩
          · have shorter : rest.length < n := by
              rw [← hn, List.length_append, List.length_cons]
              omega
            obtain ⟨none, pre, post, rfl, hpre, hpost⟩ := ih _ shorter rfl hp
            have ends : EndsWith p (s ++ [c] ++ pre) := (endsWith_concat.mpr hc).append hpre
            exact ⟨none, s ++ [c] ++ pre, post, by simp, ends, hpost⟩
  · rintro ⟨none, pre, post, rfl, hpre, hpost⟩
    have part := @splitOnP_between _ p pre part post hpre hpost
    rw [List.splitOnP_eq_singleton none] at part
    exact part.subset (List.mem_singleton_self _)

theorem splitOnP_map (f : α → β) (q : β → Bool) (l : List α) :
    (l.map f).splitOnP q = (l.splitOnP (q ∘ f)).map (List.map f) := by
  induction l with
  | nil => rfl
  | cons c l ih =>
      rw [List.map_cons, List.splitOnP_cons_eq_if_modifyHead,
        List.splitOnP_cons_eq_if_modifyHead, ih]
      change (if q (f c) then _ else _) = List.map _ (if q (f c) then _ else _)
      split
      · rfl
      · cases l.splitOnP (q ∘ f) <;> rfl

/-! ### Runs -/

/-- The maximal runs of entries that satisfy `p`. -/
def runs (p : α → Bool) (l : List α) : List (List α) :=
  (l.splitOnP fun c => !p c).filter fun r => !r.isEmpty

theorem runs_sublist_between {pre s post : List α} (hpre : EndsWith (fun c => !p c) pre)
    (hpost : BeginsWith (fun c => !p c) post) : (runs p s).Sublist (runs p (pre ++ s ++ post)) :=
  (splitOnP_between hpre hpost).filter _

/-- **What the other entries are** does not matter to the runs. -/
theorem runs_map {f : α → α} (keeps : ∀ c, p c = true → f c = c)
    (others : ∀ c, p c = false → p (f c) = false) (l : List α) : runs p (l.map f) = runs p l := by
  have same : ((fun c => !p c) ∘ f) = fun c => !p c := by
    funext c
    cases hc : p c with
    | true => simp [keeps c hc, hc]
    | false => simp [others c hc]
  unfold runs
  rw [splitOnP_map, same]
  congr 1
  -- a part has entries of the run only, and those are kept
  refine (List.map_congr_left fun part hp => ?_).trans (List.map_id _)
  have inside := (mem_splitOnP_iff.mp hp).1
  refine (List.map_congr_left fun c hc => ?_).trans (List.map_id _)
  exact keeps c (by simpa using inside c hc)

end Support

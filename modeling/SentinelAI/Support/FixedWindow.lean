import Mathlib.Algebra.Order.Ring.Defs
import Mathlib.Data.List.Pairwise
import Mathlib.Logic.Function.Basic
import Mathlib.Tactic.Linarith

/-!
# Support — FixedWindow

A counter that allows so many attempts in each of its windows, over an arbitrary ordered clock.  A
window starts with the first attempt that finds none, or finds the last one over; it has a fixed
length, and an attempt that is rejected leaves it as it is.

* `orderly_outputs`: the windows of attempts that are served in the order of their times.
* `Orderly.countP_start_le`: a window allows no more than the limit.
* `Orderly.countP_interval_le`: an interval shorter than a window allows no more than twice the
  limit.

`keyed` runs one machine for each key; `outputs_keyed` says that what a key is answered is what its
own machine answers to its own inputs.
-/

namespace Support

/-! ### Machines, one for each key -/

section Keyed

variable {κ σ α β : Type*}

/-- What a machine answers to a list of inputs. -/
def outputs (step : σ → α → β × σ) : σ → List α → List β
  | _, [] => []
  | s, a :: as => (step s a).1 :: outputs step (step s a).2 as

/-- The machine of the key of an input makes a step. -/
def keyed [DecidableEq κ] (step : σ → α → β × σ) (s : κ → σ) (input : κ × α) : β × (κ → σ) :=
  ((step (s input.1) input.2).1, Function.update s input.1 (step (s input.1) input.2).2)

/-- What a list has for one key. -/
def entriesOf [DecidableEq κ] (k : κ) (inputs : List (κ × α)) : List α :=
  (inputs.filter (·.1 = k)).map (·.2)

/-- **Keys are independent.**  Of interleaved inputs, a key is answered what its own machine answers
to its own inputs. -/
theorem outputs_keyed [DecidableEq κ] (step : σ → α → β × σ) (k : κ) (s : κ → σ)
    (inputs : List (κ × α)) :
    ((inputs.zip (outputs (keyed step) s inputs)).filter (·.1.1 = k)).map (·.2) =
      outputs step (s k) (entriesOf k inputs) := by
  induction inputs generalizing s with
  | nil => rfl
  | cons input inputs ih =>
      obtain ⟨k', a⟩ := input
      rw [outputs, List.zip_cons_cons]
      by_cases hk : k' = k
      · subst hk
        have own : entriesOf k' ((k', a) :: inputs) = a :: entriesOf k' inputs := by
          simp [entriesOf]
        have stepped : (keyed step s (k', a)).2 k' = (step (s k') a).2 := Function.update_self ..
        rw [own, outputs, List.filter_cons_of_pos (by simp), List.map_cons, ih, stepped]
        rfl
      · have other : entriesOf k ((k', a) :: inputs) = entriesOf k inputs := by
          simp [entriesOf, hk]
        have kept : (keyed step s (k', a)).2 k = s k := Function.update_of_ne (Ne.symm hk) ..
        rw [other, List.filter_cons_of_neg (by simpa using hk), ih, kept]

end Keyed

/-! ### One counter -/

section Counter

variable {T : Type*} [CommRing T] [LinearOrder T] [IsStrictOrderedRing T]

/-- What is known of an attempt once it is served. -/
structure Served (T : Type*) where
  time : T
  allowed : Bool
  /-- When the window that it fell into started. -/
  start : T

/-- Two attempts fell into one window, or into windows that do not overlap. -/
def Served.Apart (window : T) (e f : Served T) : Prop :=
  e.start = f.start ∨ e.start + window ≤ f.start ∨ f.start + window ≤ e.start

variable (limit : Int) (window : T)

/-- An attempt at `now`, given when the last window started and how many it has allowed. -/
def attemptAt (s : Option (T × Int)) (now : T) : Served T × Option (T × Int) :=
  let (start, count) := s.getD (now, 0)
  let (start, count) := if now - start ≥ window then (now, 0) else (start, count)
  if count ≥ limit then (⟨now, false, start⟩, some (start, count))
  else (⟨now, true, start⟩, some (start, count + 1))

variable {limit window}

omit [IsStrictOrderedRing T] in
/-- The first attempt starts a window. -/
theorem attemptAt_none (now : T) :
    attemptAt limit window none now = attemptAt limit window (some (now, 0)) now := rfl

/-- An attempt after the window starts the next one. -/
theorem attemptAt_expired (hl : 1 ≤ limit) {start now : T} (h : start + window ≤ now) (n : Int) :
    attemptAt limit window (some (start, n)) now = (⟨now, true, now⟩, some (now, 1)) := by
  have past : now - start ≥ window := by linarith
  have free : ¬ (0 : Int) ≥ limit := by omega
  simp only [attemptAt, Option.getD_some, if_pos past, if_neg free]
  rfl

/-- An attempt within the window is allowed while there is room. -/
theorem attemptAt_room {start now : T} (h : now < start + window) {n : Int} (hn : n < limit) :
    attemptAt limit window (some (start, n)) now = (⟨now, true, start⟩, some (start, n + 1)) := by
  have within : ¬ now - start ≥ window := by
    rw [ge_iff_le, not_le]
    linarith
  have free : ¬ n ≥ limit := by omega
  simp only [attemptAt, Option.getD_some, if_neg within, if_neg free]

/-- Otherwise it is rejected, and leaves the window as it is. -/
theorem attemptAt_full {start now : T} (h : now < start + window) {n : Int} (hn : limit ≤ n) :
    attemptAt limit window (some (start, n)) now = (⟨now, false, start⟩, some (start, n)) := by
  have within : ¬ now - start ≥ window := by
    rw [ge_iff_le, not_le]
    linarith
  simp only [attemptAt, Option.getD_some, if_neg within, if_pos hn]

/-! ### Attempts one after the other -/

/-- What attempts come to after a window that started at `start` has allowed `n`. -/
structure Orderly (limit : Int) (window start : T) (n : Int) (es : List (Served T)) : Prop where
  inside : ∀ e ∈ es, e.start ≤ e.time ∧ e.time < e.start + window
  later : ∀ e ∈ es, e.start = start ∨ start + window ≤ e.start
  apart : es.Pairwise fun e f => f.start = e.start ∨ e.start + window ≤ f.start
  bounded : ∀ x, (es.countP fun e => e.allowed && e.start = x) + (if x = start then n else 0) ≤
    limit

namespace Orderly

variable {start now : T} {n : Int} {es : List (Served T)}

omit [IsStrictOrderedRing T] in
theorem nil (hl : 1 ≤ limit) (hn : n ≤ limit) : Orderly limit window start n [] := by
  refine ⟨fun _ h => (List.not_mem_nil h).elim, fun _ h => (List.not_mem_nil h).elim, .nil,
    fun x => ?_⟩
  rw [List.countP_nil]
  split <;> omega

/-- No attempt falls into a window before the last. -/
theorem countP_eq_zero (h : Orderly limit window start n es) (hw : 0 < window) {x : T}
    (hx : x < start) : (es.countP fun e => e.allowed && e.start = x) = 0 := by
  refine List.countP_eq_zero.mpr fun e he hp => ?_
  have hp : e.start = x := of_decide_eq_true (Bool.and_eq_true _ _ ▸ hp).2
  rcases h.later e he with h | h <;> linarith

/-- An attempt after the window starts the next one. -/
theorem next (h : Orderly limit window now 1 es) (hw : 0 < window) (hn : n ≤ limit)
    (hover : start + window ≤ now) : Orderly limit window start n (⟨now, true, now⟩ :: es) := by
  refine ⟨?_, ?_, List.pairwise_cons.mpr ⟨h.later, h.apart⟩, fun x => ?_⟩
  · rw [List.forall_mem_cons]
    exact ⟨⟨le_rfl, by dsimp only; linarith⟩, h.inside⟩
  · rw [List.forall_mem_cons]
    refine ⟨.inr hover, fun e he => .inr ?_⟩
    rcases h.later e he with h | h
    · rw [h]
      exact hover
    · linarith
  · have bound := h.bounded x
    rw [List.countP_cons]
    by_cases hx : x = now
    · have hne : x ≠ start := by
        rintro rfl
        linarith
      rw [if_pos hx] at bound
      rw [if_neg hne, if_pos (by simp [hx])]
      push_cast
      omega
    · rw [if_neg hx] at bound
      rw [if_neg (by simpa using Ne.symm hx)]
      by_cases hx' : x = start
      · have past : x < now := by linarith
        rw [h.countP_eq_zero hw past, if_pos hx']
        omega
      · rw [if_neg hx']
        exact bound

omit [IsStrictOrderedRing T] in
/-- An attempt within the window counts if it is allowed. -/
theorem within {allowed : Bool} (h : Orderly limit window start (if allowed then n + 1 else n) es)
    (hstart : start ≤ now) (hin : now < start + window) :
    Orderly limit window start n (⟨now, allowed, start⟩ :: es) := by
  refine ⟨?_, ?_, List.pairwise_cons.mpr ⟨h.later, h.apart⟩, fun x => ?_⟩
  · rw [List.forall_mem_cons]
    exact ⟨⟨hstart, hin⟩, h.inside⟩
  · rw [List.forall_mem_cons]
    exact ⟨.inl rfl, h.later⟩
  · have bound := h.bounded x
    cases allowed with
    | false =>
        rw [List.countP_cons_of_neg (by simp)]
        exact bound
    | true =>
        rw [if_pos rfl] at bound
        rw [List.countP_cons]
        by_cases hx : x = start
        · rw [if_pos hx] at bound ⊢
          rw [if_pos (by simp [hx])]
          push_cast
          omega
        · rw [if_neg hx] at bound ⊢
          rw [if_neg (by simpa using Ne.symm hx)]
          exact bound

end Orderly

/-- The windows of attempts that are served in the order of their times. -/
theorem orderly_outputs (hl : 1 ≤ limit) (hw : 0 < window) {times : List T}
    (hs : times.Pairwise (· ≤ ·)) {start : T} {n : Int} (hn : n ≤ limit)
    (hle : ∀ t ∈ times, start ≤ t) :
    Orderly limit window start n (outputs (attemptAt limit window) (some (start, n)) times) := by
  induction times generalizing start n with
  | nil => exact .nil hl hn
  | cons now times ih =>
      obtain ⟨hnow, hs⟩ := List.pairwise_cons.mp hs
      obtain ⟨hstart, hle'⟩ := List.forall_mem_cons.mp hle
      rw [outputs]
      by_cases hover : start + window ≤ now
      · rw [attemptAt_expired hl hover]
        exact (ih hs hl hnow).next hw hn hover
      · have hin : now < start + window := not_le.mp hover
        by_cases hroom : n < limit
        · rw [attemptAt_room hin hroom]
          exact .within (ih hs hroom hle') hstart hin
        · rw [attemptAt_full hin (Int.not_lt.mp hroom)]
          exact .within (ih hs hn hle') hstart hin

/-! ### Bounds -/

/-- Attempts where there was no window yet. -/
theorem orderly_of_none (hl : 1 ≤ limit) (hw : 0 < window) {times : List T}
    (hs : times.Pairwise (· ≤ ·)) :
    ∃ start, Orderly limit window start 0 (outputs (attemptAt limit window) none times) := by
  have positive : 0 ≤ limit := by omega
  cases times with
  | nil => exact ⟨0, orderly_outputs hl hw hs positive fun _ h => (List.not_mem_nil h).elim⟩
  | cons now times =>
      refine ⟨now, ?_⟩
      have all : ∀ t ∈ now :: times, now ≤ t := by
        rw [List.forall_mem_cons]
        exact ⟨le_rfl, (List.pairwise_cons.mp hs).1⟩
      have served := orderly_outputs hl hw hs positive all
      rwa [outputs, ← attemptAt_none] at served

namespace Orderly

variable {start : T} {es : List (Served T)}

omit [IsStrictOrderedRing T] in
/-- **A window** allows no more than the limit. -/
theorem countP_start_le (h : Orderly limit window start 0 es) (x : T) :
    (es.countP fun e => e.allowed && e.start = x) ≤ limit := by
  have bound := h.bounded x
  split at bound <;> omega

omit [IsStrictOrderedRing T] in
/-- The windows of any two attempts are one window, or do not overlap. -/
theorem starts (h : Orderly limit window start 0 es) {e f : Served T}
    (he : e ∈ es) (hf : f ∈ es) : e.Apart window f := by
  refine List.Pairwise.forall_of_forall_of_flip (fun _ _ => .inl rfl) ?_ ?_ he hf
  · refine h.apart.imp fun {e f} h => ?_
    rcases h with h | h
    · exact .inl h.symm
    · exact .inr (.inl h)
  · refine h.apart.imp fun {e f} h => ?_
    rcases h with h | h
    · exact .inl h
    · exact .inr (.inr h)

/-- Three attempts in an interval shorter than a window do not fall into three windows. -/
theorem two_windows (h : Orderly limit window start 0 es) {a b : T}
    (hab : b - a < window) {e f g : Served T} (he : e ∈ es) (hf : f ∈ es) (hg : g ∈ es)
    (hea : a ≤ e.time) (heb : e.time ≤ b) (hfa : a ≤ f.time) (hfb : f.time ≤ b)
    (hga : a ≤ g.time) (hgb : g.time ≤ b) (hef : f.start ≠ e.start) :
    g.start = e.start ∨ g.start = f.start := by
  obtain ⟨he₁, he₂⟩ := h.inside e he
  obtain ⟨hf₁, hf₂⟩ := h.inside f hf
  obtain ⟨hg₁, hg₂⟩ := h.inside g hg
  rcases h.starts hg he with hge | hge
  · exact .inl hge
  · rcases h.starts hg hf with hgf | hgf
    · exact .inr hgf
    · rcases h.starts he hf with hfe | hfe
      · exact absurd hfe.symm hef
      · -- three starts, each a window away from the others, within less than two windows
        rcases hge with hge | hge <;> rcases hgf with hgf | hgf <;> rcases hfe with hfe | hfe <;>
          linarith

/-- **An interval shorter than a window** allows no more than twice the limit. -/
theorem countP_interval_le (h : Orderly limit window start 0 es) {a b : T}
    (hab : b - a < window) :
    (es.countP fun e => e.allowed && (a ≤ e.time && e.time ≤ b)) ≤ 2 * limit := by
  -- the attempts fall into two windows, which may be the same
  have windows : ∃ x y, ∀ e ∈ es, a ≤ e.time → e.time ≤ b → e.start = x ∨ e.start = y := by
    by_cases hne : ∃ e ∈ es, a ≤ e.time ∧ e.time ≤ b
    · obtain ⟨e, he, hea, heb⟩ := hne
      by_cases hne' : ∃ f ∈ es, (a ≤ f.time ∧ f.time ≤ b) ∧ f.start ≠ e.start
      · obtain ⟨f, hf, ⟨hfa, hfb⟩, hef⟩ := hne'
        exact ⟨e.start, f.start, fun g hg hga hgb =>
          h.two_windows hab he hf hg hea heb hfa hfb hga hgb hef⟩
      · refine ⟨e.start, e.start, fun g hg hga hgb => .inl ?_⟩
        by_contra hge
        exact hne' ⟨g, hg, ⟨hga, hgb⟩, hge⟩
    · exact ⟨0, 0, fun e he hea heb => absurd ⟨e, he, hea, heb⟩ hne⟩
  obtain ⟨x, y, hxy⟩ := windows
  have split_windows : ∀ l : List (Served T), (∀ e ∈ l, e ∈ es) →
      (l.countP fun e => e.allowed && (a ≤ e.time && e.time ≤ b)) ≤
        (l.countP fun e => e.allowed && e.start = x) +
          l.countP fun e => e.allowed && e.start = y := by
    intro l hl
    induction l with
    | nil => exact le_rfl
    | cons e l ih =>
        have rest := ih fun f hf => hl f (List.mem_cons_of_mem _ hf)
        rw [List.countP_cons, List.countP_cons, List.countP_cons]
        by_cases hp : (e.allowed && (a ≤ e.time && e.time ≤ b)) = true
        · rw [if_pos hp]
          simp only [Bool.and_eq_true, decide_eq_true_eq] at hp
          rcases hxy e (hl e List.mem_cons_self) hp.2.1 hp.2.2 with hx | hy
          · rw [if_pos (by simp [hp.1, hx])]
            omega
          · have one : (if (e.allowed && decide (e.start = y)) = true then 1 else 0) = 1 :=
              if_pos (by simp [hp.1, hy])
            rw [one]
            omega
        · rw [if_neg hp]
          omega
  have both := split_windows es fun _ h => h
  have hx := h.countP_start_le x
  have hy := h.countP_start_le y
  omega

end Orderly

end Counter

end Support

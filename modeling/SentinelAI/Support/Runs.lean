import Mathlib.Data.List.Basic

/-!
# Support — Runs

Runs of a labelled transition system, given by its step relation `step s a s'`.  `Run step s as s'`
is a run from `s` to `s'` whose steps carry the labels `as`, in order.

* `Run.invariant`: what the start has and every step keeps holds at the end.
* `Run.relates`: what relates the ends of every step relates those of a run.
* `Run.history`: the same, for what relates a state to the labels of the steps that led to it.
* `Run.All.congr`: conditions that agree on every step agree on every run.
* `Run.All.within_iff`: a condition that is exact for one step is exact for runs.

`Run.All` are the runs all of whose steps satisfy a condition `C`; for these the rule for steps is
needed only where `C` holds.
-/

namespace Support

variable {σ α : Type*} {step : σ → α → σ → Prop}

/-- A run from `s` to `s'`, labelled `as`. -/
inductive Run (step : σ → α → σ → Prop) : σ → List α → σ → Prop where
  | nil (s : σ) : Run step s [] s
  | cons {s s₁ s' : σ} {a : α} {as : List α}
      (h : step s a s₁) (t : Run step s₁ as s') : Run step s (a :: as) s'

/-- A run every step of which satisfies `C`. -/
inductive Run.All (step : σ → α → σ → Prop) (C : σ → α → σ → Prop) :
    σ → List α → σ → Prop where
  | nil (s : σ) : Run.All step C s [] s
  | cons {s s₁ s' : σ} {a : α} {as : List α}
      (h : step s a s₁) (hC : C s a s₁) (t : Run.All step C s₁ as s') :
      Run.All step C s (a :: as) s'

/-- Some run leads from `s₀` to `s`. -/
def Reachable (step : σ → α → σ → Prop) (s₀ s : σ) : Prop := ∃ as, Run step s₀ as s

namespace Run

theorem one {s s' : σ} {a : α} (h : step s a s') : Run step s [a] s' := .cons h (.nil _)

theorem append {s s₁ s' : σ} {as bs : List α} (h₁ : Run step s as s₁) (h₂ : Run step s₁ bs s') :
    Run step s (as ++ bs) s' := by
  induction h₁ with
  | nil => exact h₂
  | cons h _ ih => exact .cons h (ih h₂)

namespace All

variable {C : σ → α → σ → Prop}

/-- Conditions that agree on every step agree on every run. -/
theorem congr {D : σ → α → σ → Prop} (h : ∀ s a s', step s a s' → (C s a s' ↔ D s a s'))
    {s s' : σ} {as : List α} : Run.All step C s as s' ↔ Run.All step D s as s' := by
  constructor
  · intro t
    induction t with
    | nil => exact .nil _
    | cons hs hC _ ih => exact .cons hs ((h _ _ _ hs).mp hC) ih
  · intro t
    induction t with
    | nil => exact .nil _
    | cons hs hD _ ih => exact .cons hs ((h _ _ _ hs).mpr hD) ih

/-- A run under a condition is one under every weaker condition. -/
theorem imp {D : σ → α → σ → Prop} (h : ∀ s a s', C s a s' → D s a s') {s s' : σ} {as : List α}
    (t : Run.All step C s as s') : Run.All step D s as s' := by
  induction t with
  | nil => exact .nil _
  | cons hs hC _ ih => exact .cons hs (h _ _ _ hC) ih

/-- What holds of every label may be added to the condition. -/
theorem of_labels {L : α → Prop} {s s' : σ} {as : List α} (t : Run.All step C s as s')
    (h : ∀ a ∈ as, L a) : Run.All step (fun s a s' => C s a s' ∧ L a) s as s' := by
  induction t with
  | nil => exact .nil _
  | cons hs hC _ ih =>
      exact .cons hs ⟨hC, h _ List.mem_cons_self⟩ (ih fun a ha => h a (List.mem_cons_of_mem _ ha))

/-- **Invariants.**  What the start has, and every step taken under `C` keeps, holds at the end. -/
theorem invariant {I : σ → Prop} (hstep : ∀ s a s', step s a s' → C s a s' → I s → I s')
    {s s' : σ} {as : List α} (h : Run.All step C s as s') (hs : I s) : I s' := by
  induction h with
  | nil => exact hs
  | cons h hC _ ih => exact ih (hstep _ _ _ h hC hs)

/-- **Preorders.**  What relates the ends of every step taken under `C` relates those of a run. -/
theorem relates {R : σ → σ → Prop} (hrefl : ∀ s, R s s)
    (htrans : ∀ s t u, R s t → R t u → R s u)
    (hstep : ∀ s a s', step s a s' → C s a s' → R s s') {s s' : σ} {as : List α}
    (h : Run.All step C s as s') : R s s' := by
  induction h with
  | nil s => exact hrefl s
  | cons h hC _ ih => exact htrans _ _ _ (hstep _ _ _ h hC) ih

/-- **Exact conditions.**  Where, from a state that satisfies `I`, a step leads to one that does
exactly under `C`, the runs that stay within `I` are those all of whose steps satisfy `C`. -/
theorem within_iff {I : σ → Prop} (hstep : ∀ s a s', step s a s' → I s → (I s' ↔ C s a s'))
    {s s' : σ} {as : List α} (hs : I s) :
    Run.All step (fun _ _ t => I t) s as s' ↔ Run.All step C s as s' := by
  constructor
  · intro h
    induction h with
    | nil => exact .nil _
    | cons h hI _ ih => exact .cons h ((hstep _ _ _ h hs).mp hI) (ih hI)
  · intro h
    induction h with
    | nil => exact .nil _
    | cons h hC _ ih =>
        have hI := (hstep _ _ _ h hs).mpr hC
        exact .cons h hI (ih hI)

end All

/-- A run is a run under the trivial condition. -/
theorem toAll {s s' : σ} {as : List α} (h : Run step s as s') :
    Run.All step (fun _ _ _ => True) s as s' := by
  induction h with
  | nil => exact .nil _
  | cons h _ ih => exact .cons h trivial ih

theorem invariant {I : σ → Prop} (hstep : ∀ s a s', step s a s' → I s → I s')
    {s s' : σ} {as : List α} (h : Run step s as s') (hs : I s) : I s' :=
  h.toAll.invariant (fun s a s' h _ => hstep s a s' h) hs

theorem relates {R : σ → σ → Prop} (hrefl : ∀ s, R s s)
    (htrans : ∀ s t u, R s t → R t u → R s u) (hstep : ∀ s a s', step s a s' → R s s')
    {s s' : σ} {as : List α} (h : Run step s as s') : R s s' :=
  h.toAll.relates hrefl htrans fun s a s' h _ => hstep s a s' h

/-- Steps under other labels are taken by a run under those. -/
theorem map {β : Type*} {step' : σ → β → σ → Prop} (f : α → β)
    (hstep : ∀ s a s', step s a s' → step' s (f a) s') {s s' : σ} {as : List α}
    (h : Run step s as s') : Run step' s (as.map f) s' := by
  induction h with
  | nil s => exact .nil s
  | cons h _ ih => exact .cons (hstep _ _ _ h) ih

/-- **Histories.**  What relates the start to no steps, and is kept when a step and its label are
added, relates the end to the labels of the run. -/
theorem history {I : List α → σ → Prop}
    (hstep : ∀ as s a s', step s a s' → I as s → I (as ++ [a]) s') {s s' : σ} {as : List α}
    (h : Run step s as s') (hs : I [] s) : I as s' := by
  have after : ∀ {s s' : σ} {as : List α}, Run step s as s' →
      ∀ pre, I pre s → I (pre ++ as) s' := by
    intro s s' as h
    induction h with
    | nil => exact fun pre hp => by rwa [List.append_nil]
    | cons h _ ih =>
        intro pre hp
        have := ih _ (hstep _ _ _ _ h hp)
        rwa [List.append_assoc, List.singleton_append] at this
  exact after h [] hs

end Run

end Support

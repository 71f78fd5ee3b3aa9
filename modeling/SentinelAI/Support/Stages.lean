import Mathlib.Data.List.Infix
import Mathlib.Data.List.Nodup

/-!
# Support — Stages

Stages that run one after another, each of which adds at most one entry to a log.

* `Traced.labels_sublist`: the log is in the order of the stages.
* `Traced.mem_labels_iff`: a stage is named in the log exactly when it added an entry.
-/

namespace Support

/-- What each of the stages, named by `stages`, adds to a log: an entry with its own label, or
nothing. -/
inductive Traced {κ ε : Type*} (label : ε → κ) : List κ → List (Option ε) → Prop where
  | nil : Traced label [] []
  | cons {stage : κ} {stages : List κ} {entry : Option ε} {entries : List (Option ε)} :
      (∀ e ∈ entry, label e = stage) → Traced label stages entries →
      Traced label (stage :: stages) (entry :: entries)

namespace Traced

variable {κ ε : Type*} {label : ε → κ} {stages : List κ} {entries : List (Option ε)}

/-- The labels come in the order of the stages, each at most once. -/
theorem labels_sublist (h : Traced label stages entries) :
    ((entries.flatMap Option.toList).map label).Sublist stages := by
  induction h with
  | nil => exact .slnil
  | @cons stage stages entry entries he _ ih =>
      cases entry with
      | none => exact ih.cons stage
      | some e =>
          rw [List.flatMap_cons, List.map_append, ← he e rfl]
          exact ih.cons_cons (label e)

/-- A stage is among the labels exactly when it has an entry. -/
theorem mem_labels_iff (h : Traced label stages entries) (hd : stages.Nodup) (i : Nat)
    (hi : i < stages.length) :
    stages[i] ∈ (entries.flatMap Option.toList).map label ↔ ∃ e, entries[i]? = some (some e) := by
  induction h generalizing i with
  | nil => exact absurd hi (Nat.not_lt_zero i)
  | @cons stage stages entry entries he h ih =>
      obtain ⟨fresh, hd⟩ := List.nodup_cons.mp hd
      -- the labels of the other stages are other names
      have others : ∀ k ∈ (entries.flatMap Option.toList).map label, k ∈ stages :=
        fun _ hk => h.labels_sublist.subset hk
      rw [List.flatMap_cons, List.map_append, List.mem_append]
      cases i with
      | zero =>
          rw [List.getElem_cons_zero, or_iff_left fun hk => fresh (others _ hk),
            List.getElem?_cons_zero]
          cases entry with
          | none => simp
          | some e => simpa using (he e rfl).symm
      | succ i =>
          have hi : i < stages.length := Nat.lt_of_succ_lt_succ hi
          rw [List.getElem_cons_succ, or_iff_right, List.getElem?_cons_succ]
          · exact ih hd i hi
          · intro hk
            obtain ⟨e, hm, hl⟩ := List.mem_map.mp hk
            rw [he e (by simpa using hm)] at hl
            exact fresh (hl ▸ List.getElem_mem hi)

end Traced

end Support

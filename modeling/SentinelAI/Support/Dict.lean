import Mathlib.Algebra.GroupWithZero.Nat
import Mathlib.Data.List.Dedup
import Mathlib.Data.List.Sort

/-!
# Support — Dict

A dictionary built from rows, `{key(r): r for r in rows}`: under each key it holds the last row that
has the key, at the place of the first.

* `mem_dictRows`, `find?_dictRows`: the rows that the dictionary holds, and the one under a key.
* `nodup_dictRows_keys`: no key stands twice in it.
* `exists_perm_lastRow`: the order of the rows can make any one of them the row of its key.
* `lastRow_of_nodup`: rows without a repeated key are all held.
-/

namespace Support

/-- A list without its repeats has none. -/
theorem nodup_eraseDups {κ : Type*} [BEq κ] [LawfulBEq κ] : ∀ l : List κ, l.eraseDups.Nodup
  | [] => List.nodup_nil
  | k :: l => by
      have : (l.filter fun b => !b == k).length < l.length + 1 :=
        Nat.lt_succ_of_le (List.length_filter_le _ l)
      rw [List.eraseDups_cons]
      refine List.nodup_cons.mpr ⟨fun hk => ?_, nodup_eraseDups _⟩
      have := (List.mem_filter.mp (List.mem_eraseDups.mp hk)).2
      rw [beq_self_eq_true] at this
      cases this
  termination_by l => l.length

/-- A member that is there already is not listed again. -/
theorem eraseDups_concat {κ : Type*} [BEq κ] [LawfulBEq κ] [DecidableEq κ] (l : List κ) (a : κ) :
    (l ++ [a]).eraseDups = if a ∈ l then l.eraseDups else l.eraseDups ++ [a] := by
  rw [List.eraseDups_append]
  by_cases ha : a ∈ l
  · rw [if_pos ha]
    simp [List.removeAll, ha]
  · rw [if_neg ha]
    simp [List.removeAll, ha, List.eraseDups_cons]

/-- What has no repeats is left as it is. -/
theorem eraseDups_of_nodup {κ : Type*} [BEq κ] [LawfulBEq κ] {l : List κ} (h : l.Nodup) :
    l.eraseDups = l := by
  induction l with
  | nil => rfl
  | cons k l ih =>
      obtain ⟨hk, hl⟩ := List.nodup_cons.mp h
      have hf : l.filter (fun b => !b == k) = l := List.filter_eq_self.mpr fun b hb => by
        have hne : b ≠ k := by
          rintro rfl
          exact hk hb
        rw [beq_eq_false_iff_ne.mpr hne]
        rfl
      rw [List.eraseDups_cons, hf, ih hl]

/-- Each element counted once, with its repeats, makes the list. -/
theorem sum_count_eraseDups {κ : Type*} [BEq κ] [LawfulBEq κ] : ∀ l : List κ,
    (l.eraseDups.map fun k => l.count k).sum = l.length
  | [] => rfl
  | k :: l => by
      have shorter : (l.filter fun b => !b == k).length < l.length + 1 :=
        Nat.lt_succ_of_le (List.length_filter_le _ l)
      -- the others occur as often as where `k` is left out
      have others : ((l.filter fun b => !b == k).eraseDups.map fun b => (k :: l).count b) =
          (l.filter fun b => !b == k).eraseDups.map
            fun b => (l.filter fun b => !b == k).count b := by
        refine List.map_congr_left fun b hb => ?_
        have hne := (List.mem_filter.mp (List.mem_eraseDups.mp hb)).2
        have hb : k ≠ b := by
          rintro rfl
          simp at hne
        rw [List.count_cons_of_ne hb, List.count_filter (p := fun b => !b == k) hne]
      have parts : l.count k + (l.filter fun b => !b == k).length = l.length := by
        rw [List.count, ← List.countP_eq_length_filter]
        simpa using (List.length_eq_countP_add_countP (· == k) (l := l)).symm
      rw [List.eraseDups_cons, List.map_cons, List.sum_cons, others, sum_count_eraseDups,
        List.count_cons_self, List.length_cons]
      omega
  termination_by l => l.length

section Dict

variable {α κ : Type*} [BEq κ] (key : α → κ)

/-- The row under the key `k`. -/
def lastRow (rows : List α) (k : κ) : Option α := rows.reverse.find? (key · == k)

/-- The rows that `{key(r): r for r in rows}` holds. -/
def dictRows (rows : List α) : List α := (rows.map key).eraseDups.filterMap (lastRow key rows)

variable {key} {rows : List α} {r : α} {k : κ}

theorem lastRow_mem (h : lastRow key rows k = some r) : r ∈ rows :=
  List.mem_reverse.mp (List.mem_of_find?_eq_some h)

variable [LawfulBEq κ]

theorem lastRow_key (h : lastRow key rows k = some r) : key r = k :=
  eq_of_beq (List.find?_some (p := (key · == k)) h)

theorem lastRow_eq_none_iff : lastRow key rows k = none ↔ k ∉ rows.map key := by
  rw [lastRow, List.find?_eq_none]
  constructor
  · intro h hk
    obtain ⟨r, hr, hrk⟩ := List.mem_map.mp hk
    exact h r (List.mem_reverse.mpr hr) (beq_iff_eq.mpr hrk)
  · intro h r hr hrk
    exact h (List.mem_map.mpr ⟨r, List.mem_reverse.mp hr, eq_of_beq hrk⟩)

theorem exists_lastRow (h : k ∈ rows.map key) : ∃ r, lastRow key rows k = some r :=
  Option.ne_none_iff_exists'.mp fun hn => lastRow_eq_none_iff.mp hn h

/-- The rows that the dictionary holds are the last ones of their keys. -/
theorem mem_dictRows : r ∈ dictRows key rows ↔ lastRow key rows (key r) = some r := by
  rw [dictRows, List.mem_filterMap]
  constructor
  · rintro ⟨k, -, hk⟩
    rw [lastRow_key hk, hk]
  · intro h
    exact ⟨key r, List.mem_eraseDups.mpr (List.mem_map.mpr ⟨r, lastRow_mem h, rfl⟩), h⟩

/-- The keys of the dictionary, in its order. -/
theorem dictRows_map_key : (dictRows key rows).map key = (rows.map key).eraseDups := by
  have found : ∀ ks : List κ, (∀ k ∈ ks, k ∈ rows.map key) →
      (ks.filterMap (lastRow key rows)).map key = ks := by
    intro ks
    induction ks with
    | nil => exact fun _ => rfl
    | cons k ks ih =>
        intro h
        obtain ⟨r, hr⟩ := exists_lastRow (h k List.mem_cons_self)
        rw [List.filterMap_cons_some hr, List.map_cons, lastRow_key hr,
          ih fun k' hk' => h k' (List.mem_cons_of_mem k hk')]
  exact found _ fun k hk => List.mem_eraseDups.mp hk

theorem mem_dictRows_keys : k ∈ (dictRows key rows).map key ↔ k ∈ rows.map key := by
  rw [dictRows_map_key, List.mem_eraseDups]

theorem nodup_dictRows_keys : ((dictRows key rows).map key).Nodup := by
  rw [dictRows_map_key]
  exact nodup_eraseDups _

/-- **The row under a key**, looked up in the dictionary. -/
theorem find?_dictRows : (dictRows key rows).find? (key · == k) = lastRow key rows k := by
  cases h : (dictRows key rows).find? (key · == k) with
  | none =>
      refine (lastRow_eq_none_iff.mpr fun hk => ?_).symm
      obtain ⟨r, hr, hrk⟩ := List.mem_map.mp (mem_dictRows_keys.mpr hk)
      exact List.find?_eq_none.mp h r hr (beq_iff_eq.mpr hrk)
  | some r =>
      have hk : key r = k := eq_of_beq (List.find?_some (p := (key · == k)) h)
      rw [← hk, mem_dictRows.mp (List.mem_of_find?_eq_some h)]

/-! ### The order of the rows -/

theorem lastRow_concat_self : lastRow key (rows ++ [r]) (key r) = some r := by
  rw [lastRow, List.reverse_append, List.reverse_singleton, List.singleton_append]
  exact List.find?_cons_of_pos (beq_self_eq_true (key r))

/-- Any row can come last. -/
theorem exists_perm_lastRow (h : r ∈ rows) :
    ∃ rows' : List α, rows'.Perm rows ∧ lastRow key rows' (key r) = some r := by
  obtain ⟨l₁, l₂, rfl⟩ := List.append_of_mem h
  refine ⟨(l₁ ++ l₂) ++ [r], ?_, lastRow_concat_self⟩
  exact (List.perm_append_singleton r (l₁ ++ l₂)).trans List.perm_middle.symm

/-- Rows without a repeated key are all held. -/
theorem lastRow_of_nodup (h : (rows.map key).Nodup) : lastRow key rows k = some r ↔
    r ∈ rows ∧ key r = k := by
  refine ⟨fun h' => ⟨lastRow_mem h', lastRow_key h'⟩, ?_⟩
  rintro ⟨hr, rfl⟩
  have hk : key r ∈ rows.map key := List.mem_map.mpr ⟨r, hr, rfl⟩
  obtain ⟨r', hr'⟩ := exists_lastRow hk
  have same : r' = r := List.inj_on_of_nodup_map h (lastRow_mem hr') hr (lastRow_key hr')
  rw [hr', same]

end Dict

/-! ### Sorting by a key -/

/-- Two lists sorted without repeats are one list when they have one set of elements. -/
theorem insertionSort_dedup_inj {α : Type*} [DecidableEq α] {le : α → α → Prop}
    [DecidableRel le] [Std.Total le] [IsTrans α le] [Std.Antisymm le] {l l' : List α} :
    l.dedup.insertionSort le = l'.dedup.insertionSort le ↔ ∀ a, a ∈ l ↔ a ∈ l' := by
  constructor
  · intro h a
    have hl := (List.perm_insertionSort le l.dedup).mem_iff (a := a)
    have hl' := (List.perm_insertionSort le l'.dedup).mem_iff (a := a)
    rw [h] at hl
    rw [← List.mem_dedup, ← hl, hl', List.mem_dedup]
  · intro h
    have hp : l.dedup.Perm l'.dedup := (List.perm_ext_iff_of_nodup l.nodup_dedup
      l'.nodup_dedup).mpr fun a => by rw [List.mem_dedup, List.mem_dedup, h a]
    exact List.Perm.eq_of_pairwise' (List.pairwise_insertionSort le _)
      (List.pairwise_insertionSort le _)
      (((List.perm_insertionSort le _).trans hp).trans (List.perm_insertionSort le _).symm)

end Support

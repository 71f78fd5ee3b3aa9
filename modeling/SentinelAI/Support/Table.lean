import Mathlib.Data.List.Sort
import Mathlib.Data.Int.Order.Basic

/-!
# Support — Table

Relational tables with an integer primary key, and the queries on them.  The rows of a `Table` are
in the order of their keys, which the structure carries as a field, so that no two rows share a
key; `insert` gives a row the next key, `modify` is `UPDATE … WHERE id = i`.

* `find?_eq_some_iff`: the row found by a key is the row that has it.
* `filter_insert`, `filter_modify`: what a write leaves of a `WHERE` clause.
* `orderDesc` is `ORDER BY k DESC`, which leaves rows with one `k` in the order of their keys;
  `mem_limit_orderDesc` says which rows are among the first `n`.
-/

namespace Support

/-- Rows with a primary key. -/
class Row (ρ : Type*) where
  key : ρ → Int
  setKey : Int → ρ → ρ
  key_setKey : ∀ i r, key (setKey i r) = i

attribute [simp] Row.key_setKey

/-- A table, in the order of the primary key. -/
@[ext] structure Table (ρ : Type*) [Row ρ] where
  rows : List ρ
  sorted : rows.Pairwise fun r s => Row.key r < Row.key s

namespace Table

variable {ρ : Type*} [Row ρ]

def empty : Table ρ := ⟨[], .nil⟩

/-- One more than the largest key in use. -/
def nextKey (l : List ρ) : Int := l.foldr (fun r n => max (Row.key r + 1) n) 1

theorem key_lt_nextKey {l : List ρ} {r : ρ} (h : r ∈ l) : Row.key r < nextKey l := by
  induction l with
  | nil => cases h
  | cons s l ih =>
      rw [nextKey, List.foldr_cons]
      rcases List.mem_cons.mp h with rfl | h
      · omega
      · have := ih h
        rw [nextKey] at this
        omega

/-- The row as `INSERT` stores it. -/
def stored (t : Table ρ) (r : ρ) : ρ := Row.setKey (nextKey t.rows) r

/-- `INSERT` -/
def insert (t : Table ρ) (r : ρ) : Table ρ where
  rows := t.rows ++ [t.stored r]
  sorted := by
    refine List.pairwise_append.mpr ⟨t.sorted, List.pairwise_singleton _ _, fun s hs s' hs' => ?_⟩
    rw [List.mem_singleton.mp hs', stored, Row.key_setKey]
    exact key_lt_nextKey hs

/-- The row with key `i`. -/
def find? (t : Table ρ) (i : Int) : Option ρ := t.rows.find? fun r => Row.key r == i

/-- `UPDATE … WHERE id = i` -/
def modify (t : Table ρ) (i : Int) (f : ρ → ρ) : Table ρ where
  rows := t.rows.map fun r => if Row.key r = i then Row.setKey i (f r) else r
  sorted := by
    refine List.pairwise_map.mpr (t.sorted.imp fun {r s} h => ?_)
    have key_eq : ∀ r : ρ,
        Row.key (if Row.key r = i then Row.setKey i (f r) else r) = Row.key r := by
      intro r
      split
      · rename_i h
        rw [Row.key_setKey, h]
      · rfl
    rw [key_eq, key_eq]
    exact h

/-- `DELETE … WHERE p` -/
def deleteWhere (t : Table ρ) (p : ρ → Bool) : Table ρ where
  rows := t.rows.filter fun r => !p r
  sorted := t.sorted.filter _

/-! ### Rows and keys -/

/-- `UPDATE` of every row, with `f` leaving the keys as they are. -/
def updateAll (t : Table ρ) (f : ρ → ρ) (hf : ∀ r, Row.key (f r) = Row.key r) : Table ρ where
  rows := t.rows.map f
  sorted := List.pairwise_map.mpr (t.sorted.imp fun {r s} h => by rwa [hf r, hf s])

@[simp] theorem rows_insert (t : Table ρ) (r : ρ) :
    (t.insert r).rows = t.rows ++ [t.stored r] := rfl

@[simp] theorem key_stored (t : Table ρ) (r : ρ) : Row.key (t.stored r) = nextKey t.rows :=
  Row.key_setKey _ _

theorem mem_insert {t : Table ρ} {r s : ρ} :
    s ∈ (t.insert r).rows ↔ s ∈ t.rows ∨ s = t.stored r := by
  simp

/-- Rows inserted one after the other follow those of the table, and are as they were given, but for
what `f` does not look at: their keys. -/
theorem rows_insertAll {α : Type*} {f : ρ → α} (hf : ∀ i r, f (Row.setKey i r) = f r) :
    ∀ (l : List ρ) (t : Table ρ), ∃ new, (l.foldl insert t).rows = t.rows ++ new ∧
      new.map f = l.map f
  | [], t => ⟨[], (List.append_nil _).symm, rfl⟩
  | r :: l, t => by
      obtain ⟨new, hrows, hnew⟩ := rows_insertAll hf l (t.insert r)
      refine ⟨t.stored r :: new, ?_, ?_⟩
      · rw [List.foldl_cons, hrows, rows_insert, List.append_assoc, List.singleton_append]
      · rw [List.map_cons, List.map_cons, hnew, stored, hf]

theorem eq_of_key {t : Table ρ} {r s : ρ} (hr : r ∈ t.rows) (hs : s ∈ t.rows)
    (h : Row.key r = Row.key s) : r = s := by
  obtain ⟨i, hi, rfl⟩ := List.mem_iff_getElem.mp hr
  obtain ⟨j, hj, rfl⟩ := List.mem_iff_getElem.mp hs
  rcases Nat.lt_trichotomy i j with hij | rfl | hij
  · have := List.pairwise_iff_getElem.mp t.sorted i j hi hj hij
    omega
  · rfl
  · have := List.pairwise_iff_getElem.mp t.sorted j i hj hi hij
    omega

theorem find?_eq_some_iff {t : Table ρ} {i : Int} {r : ρ} :
    t.find? i = some r ↔ r ∈ t.rows ∧ Row.key r = i := by
  constructor
  · intro h
    exact ⟨List.mem_of_find?_eq_some h, by simpa using List.find?_some h⟩
  · rintro ⟨hr, hi⟩
    cases hf : t.find? i with
    | none => exact absurd (by simpa using hi) (List.find?_eq_none.mp hf r hr)
    | some s =>
        have hs : Row.key s = i := by simpa using List.find?_some hf
        rw [eq_of_key (List.mem_of_find?_eq_some hf) hr (hs.trans hi.symm)]

theorem find?_eq_none_iff {t : Table ρ} {i : Int} :
    t.find? i = none ↔ ∀ r ∈ t.rows, Row.key r ≠ i := by
  simp [find?, List.find?_eq_none]

theorem mem_modify {t : Table ρ} {i : Int} {f : ρ → ρ} {s : ρ} :
    s ∈ (t.modify i f).rows ↔
      (s ∈ t.rows ∧ Row.key s ≠ i) ∨ ∃ r ∈ t.rows, Row.key r = i ∧ s = Row.setKey i (f r) := by
  simp only [modify, List.mem_map]
  constructor
  · rintro ⟨r, hr, h⟩
    split at h
    · rename_i hk
      exact .inr ⟨r, hr, hk, h.symm⟩
    · rename_i hk
      exact .inl ⟨h ▸ hr, h ▸ hk⟩
  · rintro (⟨hs, hk⟩ | ⟨r, hr, hk, rfl⟩)
    · exact ⟨s, hs, by rw [if_neg hk]⟩
    · exact ⟨r, hr, by rw [if_pos hk]⟩

/-! ### Two tables that look alike -/

theorem nextKey_congr : ∀ {l₁ l₂ : List ρ}, l₁.map Row.key = l₂.map Row.key →
    nextKey l₁ = nextKey l₂
  | [], [], _ => rfl
  | r :: l₁, s :: l₂, h => by
      rw [List.map_cons, List.map_cons, List.cons.injEq] at h
      rw [nextKey, nextKey, List.foldr_cons, List.foldr_cons, ← nextKey, ← nextKey, h.1,
        nextKey_congr h.2]

/-- A view of rows that shows the key, and that a new key changes in the same way. -/
structure View (α : Type*) (f : ρ → α) : Prop where
  key : ∀ {r s : ρ}, f r = f s → Row.key r = Row.key s
  setKey : ∀ {r s : ρ} (i : Int), f r = f s → f (Row.setKey i r) = f (Row.setKey i s)

/-- Tables that look alike do so after an `INSERT` of rows that look alike. -/
theorem View.map_insert {α : Type*} {f : ρ → α} (hf : View α f) {t₁ t₂ : Table ρ} {r₁ r₂ : ρ}
    (ht : t₁.rows.map f = t₂.rows.map f) (hr : f r₁ = f r₂) :
    (t₁.insert r₁).rows.map f = (t₂.insert r₂).rows.map f := by
  have keys : ∀ {l₁ l₂ : List ρ}, l₁.map f = l₂.map f → l₁.map Row.key = l₂.map Row.key := by
    intro l₁ l₂ h
    rw [← List.forall₂_eq_eq_eq, List.forall₂_map_left_iff, List.forall₂_map_right_iff] at h ⊢
    exact h.imp fun _ _ => hf.key
  rw [rows_insert, rows_insert, List.map_append, List.map_append, ht, List.map_singleton,
    List.map_singleton, stored, stored, nextKey_congr (keys ht), hf.setKey _ hr]

/-! ### What a write leaves of a query -/

theorem filter_insert {t : Table ρ} {r : ρ} {p : ρ → Bool} (h : p (t.stored r) = false) :
    (t.insert r).rows.filter p = t.rows.filter p := by
  simp [h]

theorem filter_modify {t : Table ρ} {i : Int} {f : ρ → ρ} {p : ρ → Bool}
    (h : ∀ r ∈ t.rows, Row.key r = i → p r = false ∧ p (Row.setKey i (f r)) = false) :
    (t.modify i f).rows.filter p = t.rows.filter p := by
  have key : ∀ l : List ρ, (∀ r ∈ l, r ∈ t.rows) →
      (l.map fun r => if Row.key r = i then Row.setKey i (f r) else r).filter p = l.filter p := by
    intro l hl
    induction l with
    | nil => rfl
    | cons r l ih =>
        have ih := ih fun s hs => hl s (List.mem_cons_of_mem _ hs)
        rw [List.map_cons]
        by_cases hk : Row.key r = i
        · obtain ⟨h₁, h₂⟩ := h r (hl r List.mem_cons_self) hk
          rw [if_pos hk, List.filter_cons_of_neg (by simp [h₂]),
            List.filter_cons_of_neg (by simp [h₁]), ih]
        · rw [if_neg hk]
          cases hp : p r with
          | true => rw [List.filter_cons_of_pos hp, List.filter_cons_of_pos hp, ih]
          | false =>
              rw [List.filter_cons_of_neg (by simp [hp]), List.filter_cons_of_neg (by simp [hp]),
                ih]
  exact key t.rows fun _ h => h

end Table

/-! ### Ordering and limiting what was selected -/

section Query

variable {α : Type*}

/-- `ORDER BY k DESC` -/
def orderDesc (k : α → Int) (l : List α) : List α := l.insertionSort fun r s => k s ≤ k r

/-- `LIMIT n`, which a negative `n` leaves out. -/
def limit (n : Int) (l : List α) : List α := if n < 0 then l else l.take n.toNat

theorem mem_orderDesc {k : α → Int} {l : List α} {r : α} : r ∈ orderDesc k l ↔ r ∈ l :=
  (List.perm_insertionSort _ l).mem_iff

/-- The first row has the largest `k`. -/
theorem le_of_head?_orderDesc {k : α → Int} {l : List α} {r : α}
    (h : (orderDesc k l).head? = some r) : ∀ s ∈ l, k s ≤ k r := by
  intro s hs
  have sorted : (orderDesc k l).Pairwise fun r s => k s ≤ k r :=
    List.pairwise_insertionSort _ l
  obtain ⟨rest, hrest⟩ := List.head?_eq_some_iff.mp h
  rw [hrest] at sorted
  rcases List.mem_cons.mp (hrest ▸ mem_orderDesc.mpr hs) with rfl | hs
  · exact le_rfl
  · exact (List.pairwise_cons.mp sorted).1 s hs

/-- There is a first row where there is any. -/
theorem head?_orderDesc_eq_none {k : α → Int} {l : List α} :
    (orderDesc k l).head? = none ↔ l = [] := by
  rw [List.head?_eq_none_iff, ← List.length_eq_zero_iff, orderDesc, List.length_insertionSort,
    List.length_eq_zero_iff]

/-- The order by `k` of rows that are changed in other ways. -/
theorem orderDesc_map {k : α → Int} (f : α → α) (hf : ∀ r, k (f r) = k r) (l : List α) :
    orderDesc k (l.map f) = (orderDesc k l).map f :=
  (List.map_insertionSort _ _ f l fun a _ b _ => by rw [hf a, hf b]).symm

theorem mem_of_mem_limit {n : Int} {l : List α} {r : α} (h : r ∈ limit n l) : r ∈ l := by
  unfold limit at h
  split at h
  · exact h
  · exact List.mem_of_mem_take h

end Query

/-! ### Ranks -/

section Rank

variable {ρ : Type*} [Row ρ] {k : ρ → Int}

/-- `r` comes before `s` in `ORDER BY k DESC`. -/
def Before (k : ρ → Int) (r s : ρ) : Prop :=
  k s < k r ∨ (k r = k s ∧ Row.key r < Row.key s)

instance (k : ρ → Int) (r s : ρ) : Decidable (Before k r s) :=
  inferInstanceAs (Decidable (_ ∨ _))

theorem Before.trans {r s t : ρ} (h₁ : Before k r s) (h₂ : Before k s t) : Before k r t := by
  unfold Before at *
  omega

theorem Before.asymm {r s : ρ} (h₁ : Before k r s) : ¬ Before k s r := by
  unfold Before at *
  omega

/-- Inserting a row into an ordered list of rows with larger keys keeps the list ordered. -/
theorem pairwise_orderedInsert {r : ρ} : ∀ {l : List ρ}, l.Pairwise (Before k) →
    (∀ s ∈ l, Row.key r < Row.key s) →
    (l.orderedInsert (fun r s => k s ≤ k r) r).Pairwise (Before k)
  | [], _, _ => List.pairwise_singleton _ _
  | s :: l, hl, hr => by
      rw [List.orderedInsert_cons]
      have hrs := hr s List.mem_cons_self
      obtain ⟨hs, hl'⟩ := List.pairwise_cons.mp hl
      split
      · -- of equal `k`, the smaller key goes first
        rename_i hk
        have before : Before k r s := by unfold Before; omega
        refine List.pairwise_cons.mpr ⟨fun t ht => ?_, hl⟩
        rcases List.mem_cons.mp ht with rfl | ht
        · exact before
        · exact before.trans (hs t ht)
      · -- `s` has the larger `k`, and stays in front
        rename_i hk
        refine List.pairwise_cons.mpr ⟨fun t ht => ?_,
          pairwise_orderedInsert hl' fun t ht => hr t (List.mem_cons_of_mem _ ht)⟩
        rcases (List.mem_orderedInsert _).mp ht with rfl | ht
        · unfold Before; omega
        · exact hs t ht

/-- `ORDER BY k DESC` puts the rows of a table in the order of `Before`. -/
theorem pairwise_orderDesc : ∀ {l : List ρ}, (l.Pairwise fun r s => Row.key r < Row.key s) →
    (orderDesc k l).Pairwise (Before k)
  | [], _ => .nil
  | r :: l, h => by
      obtain ⟨hr, hl⟩ := List.pairwise_cons.mp h
      exact pairwise_orderedInsert (pairwise_orderDesc hl) fun s hs => hr s (mem_orderDesc.mp hs)

/-- Among the first `n` of an ordered list are the rows with less than `n` before them. -/
theorem mem_take_of_pairwise {r : ρ} : ∀ {l : List ρ} {n : ℕ}, l.Pairwise (Before k) →
    (r ∈ l.take n ↔ r ∈ l ∧ l.countP (Before k · r) < n)
  | [], n, _ => by simp
  | s :: l, 0, _ => by simp
  | s :: l, n + 1, h => by
      obtain ⟨hs, hl⟩ := List.pairwise_cons.mp h
      rw [List.take_succ_cons, List.mem_cons, List.mem_cons, mem_take_of_pairwise hl]
      -- the head has no row before it, and every other row has the head
      by_cases hrs : r = s
      · subst hrs
        have none_before : (r :: l).countP (Before k · r) = 0 := by
          refine List.countP_eq_zero.mpr fun t ht => ?_
          rw [decide_eq_true_iff]
          rcases List.mem_cons.mp ht with rfl | ht
          · exact fun hb => hb.asymm hb
          · exact (hs t ht).asymm
        rw [none_before]
        simp
      · constructor
        · rintro (h | ⟨hm, hc⟩)
          · exact absurd h hrs
          · rw [List.countP_cons_of_pos (by simpa using hs r hm)]
            exact ⟨.inr hm, by omega⟩
        · rintro ⟨h | hm, hc⟩
          · exact absurd h hrs
          · rw [List.countP_cons_of_pos (by simpa using hs r hm)] at hc
            exact .inr ⟨hm, by omega⟩

/-- **Ranks.**  The rows of `ORDER BY k DESC LIMIT n` are those with less than `n` rows before them;
a negative `n` takes all. -/
theorem mem_limit_orderDesc {l : List ρ} (hl : l.Pairwise fun r s => Row.key r < Row.key s)
    {n : Int} {r : ρ} :
    r ∈ limit n (orderDesc k l) ↔ r ∈ l ∧ (n < 0 ∨ l.countP (Before k · r) < n) := by
  have perm : (orderDesc k l).Perm l := List.perm_insertionSort _ l
  unfold limit
  split
  · rename_i hn
    rw [mem_orderDesc]
    exact (and_iff_left (.inl hn)).symm
  · rename_i hn
    rw [mem_take_of_pairwise (pairwise_orderDesc hl), mem_orderDesc, perm.countP_eq]
    refine and_congr_right fun _ => ?_
    omega

end Rank

end Support

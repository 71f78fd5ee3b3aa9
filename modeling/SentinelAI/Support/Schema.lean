import Mathlib.Data.List.Basic
import Mathlib.Data.List.Nodup
import Mathlib.Logic.Function.Basic

/-!
# Support — Schema

Databases whose tables are altered while they hold rows.  A `Sheet` is a table with its columns and
its rows, each row with a cell for every column; a `Catalog` gives the tables by name.

A migration is additive when it only creates the tables that are missing (`createAll`) and adds the
columns that are missing (`addMissing`), each with one value in every row that is there.

* `createAll_apply`, `addMissing_spec`: what these do to each table.
* `Sheet.Grows.get_of_mem`, `Sheet.Grows.get_of_new`: no cell changes; a new one has its default.
* `addMissing_of_complete`: where nothing is missing, nothing is done.
-/

namespace Support

variable {τ κ ν : Type*}

/-! ### Tables -/

/-- A table: its columns, and rows with a cell for each column. -/
@[ext] structure Sheet (κ ν : Type*) where
  columns : List κ
  rows : List (List ν)
  nodup : columns.Nodup
  width : ∀ r ∈ rows, r.length = columns.length

namespace Sheet

/-- `CREATE TABLE` -/
def create (columns : List κ) (nodup : columns.Nodup) : Sheet κ ν := ⟨columns, [], nodup, by simp⟩

/-- A list is mapped by a partial function where every element is. -/
theorem isSome_mapM {α β : Type*} {f : α → Option β} : ∀ {l : List α},
    (∀ x ∈ l, (f x).isSome) → (l.mapM f).isSome
  | [], _ => rfl
  | x :: l, h => by
      obtain ⟨y, hy⟩ := Option.isSome_iff_exists.mp (h x List.mem_cons_self)
      obtain ⟨ys, hys⟩ := Option.isSome_iff_exists.mp
        (isSome_mapM fun x hx => h x (List.mem_cons_of_mem _ hx))
      rw [List.mapM_cons, hy, hys]
      rfl

/-- `s'` is `s` with the columns of `l` behind its own, each with one value in every row. -/
structure Grows (s s' : Sheet κ ν) (l : List (κ × ν)) : Prop where
  columns : s'.columns = s.columns ++ l.map Prod.fst
  rows : s'.rows = s.rows.map (· ++ l.map Prod.snd)

namespace Grows

variable {s s' s'' : Sheet κ ν} {l l' : List (κ × ν)}

theorem refl (s : Sheet κ ν) : s.Grows s [] := ⟨by simp, by simp⟩

theorem trans (h : s.Grows s' l) (h' : s'.Grows s'' l') : s.Grows s'' (l ++ l') where
  columns := by rw [h'.columns, h.columns, List.append_assoc, List.map_append]
  rows := by
    rw [h'.rows, h.rows, List.map_map]
    refine List.map_congr_left fun r _ => ?_
    rw [Function.comp_apply, List.append_assoc, List.map_append]

theorem eq_of_nil (h : s.Grows s' []) : s' = s :=
  Sheet.ext (by simpa using h.columns) (by simpa using h.rows)

theorem mem_columns (h : s.Grows s' l) {c : κ} :
    c ∈ s'.columns ↔ c ∈ s.columns ∨ c ∈ l.map Prod.fst := by
  rw [h.columns, List.mem_append]

end Grows

variable [DecidableEq κ]

/-- `ADD COLUMN c … DEFAULT v`, an error where the column is there. -/
def addColumn (s : Sheet κ ν) (c : κ) (v : ν) : Option (Sheet κ ν) :=
  if h : c ∈ s.columns then none
  else some
    { columns := s.columns ++ [c]
      rows := s.rows.map (· ++ [v])
      nodup := List.nodup_append.mpr ⟨s.nodup, List.nodup_singleton c, by
        rintro d hd _ hc rfl
        exact h (List.mem_singleton.mp hc ▸ hd)⟩
      width := by
        intro r hr
        obtain ⟨r, hr', rfl⟩ := List.mem_map.mp hr
        rw [List.length_append, List.length_append, s.width r hr']
        rfl }

/-- The cell of the row `r` in the column `c`. -/
def get (s : Sheet κ ν) (r : List ν) (c : κ) : Option ν := r[s.columns.idxOf c]?

/-- A row has a cell for each column. -/
theorem isSome_get {s : Sheet κ ν} {r : List ν} (hr : r ∈ s.rows) {c : κ} (hc : c ∈ s.columns) :
    (s.get r c).isSome := by
  rw [get, List.getElem?_eq_getElem]
  · rfl
  · rw [s.width r hr]
    exact List.idxOf_lt_length_iff.mpr hc

namespace Grows

variable {s s' : Sheet κ ν} {l : List (κ × ν)}

theorem of_addColumn {c : κ} {v : ν} (h : s.addColumn c v = some s') : s.Grows s' [(c, v)] := by
  unfold addColumn at h
  split at h
  · cases h
  · cases h
    exact ⟨rfl, rfl⟩

/-- What a row held it holds still. -/
theorem get_of_mem (h : s.Grows s' l) {r : List ν} (hr : r ∈ s.rows) {c : κ}
    (hc : c ∈ s.columns) : s'.get (r ++ l.map Prod.snd) c = s.get r c := by
  have hlt : s.columns.idxOf c < r.length := by
    rw [s.width r hr]
    exact List.idxOf_lt_length_iff.mpr hc
  rw [get, get, h.columns, List.idxOf_append_of_mem hc, List.getElem?_append_left hlt]

/-- A new column has its value in every row that was there. -/
theorem get_of_new (h : s.Grows s' l) {r : List ν} (hr : r ∈ s.rows) {c : κ} {v : ν}
    (hc : (c, v) ∈ l) : s'.get (r ++ l.map Prod.snd) c = some v := by
  have nodup : (s.columns ++ l.map Prod.fst).Nodup := h.columns ▸ s'.nodup
  obtain ⟨_, new, disj⟩ := List.nodup_append.mp nodup
  have hnew : c ∈ l.map Prod.fst := List.mem_map_of_mem hc
  have hold : c ∉ s.columns := fun hm => disj c hm c hnew rfl
  obtain ⟨i, hi, hci⟩ := List.mem_iff_getElem.mp hc
  have idx : (l.map Prod.fst).idxOf c = i := by
    have hi' : i < (l.map Prod.fst).length := by rwa [List.length_map]
    have := new.idxOf_getElem i hi'
    rwa [List.getElem_map, hci] at this
  rw [get, h.columns, List.idxOf_append_of_notMem hold, idx, ← s.width r hr,
    List.getElem?_append_right (Nat.le_add_right _ _), Nat.add_sub_cancel_left, List.getElem?_map,
    List.getElem?_eq_getElem hi, hci]
  rfl

end Grows

end Sheet

/-! ### Databases -/

/-- The tables of a database, by name. -/
abbrev Catalog (τ κ ν : Type*) := τ → Option (Sheet κ ν)

/-- A column that a later release added to a table, and what it holds in earlier rows. -/
structure Additive (τ κ ν : Type*) where
  table : τ
  column : κ
  default : ν

namespace Catalog

/-- `db` has the tables of `inspector`, and of the columns of `l` the same. -/
def Shows (inspector : Catalog τ κ ν) (l : List (Additive τ κ ν)) (db : Catalog τ κ ν) : Prop :=
  (∀ t, inspector t = none → db t = none) ∧
    ∀ t s, inspector t = some s → ∃ cur, db t = some cur ∧
      ∀ a ∈ l, a.table = t → (a.column ∈ cur.columns ↔ a.column ∈ s.columns)

theorem shows_self (l : List (Additive τ κ ν)) (db : Catalog τ κ ν) : Shows db l db :=
  ⟨fun _ h => h, fun _ s hs => ⟨s, hs, fun _ _ _ => Iff.rfl⟩⟩

variable [DecidableEq τ]

/-- The database that has just these tables. -/
def ofTables : List (τ × Sheet κ ν) → Catalog τ κ ν
  | [], _ => none
  | (t', s) :: tables, t => if t = t' then some s else ofTables tables t

theorem mem_of_ofTables {t : τ} {s : Sheet κ ν} : ∀ {tables : List (τ × Sheet κ ν)},
    ofTables tables t = some s → (t, s) ∈ tables
  | [], h => by cases h
  | (t', s') :: tables, h => by
      rw [ofTables] at h
      split at h
      · cases h
        rename_i ht
        exact ht ▸ List.mem_cons_self
      · exact List.mem_cons_of_mem _ (mem_of_ofTables h)

/-- `CREATE TABLE IF NOT EXISTS`, one table after the other. -/
def createAll (metadata : List (τ × Sheet κ ν)) (db : Catalog τ κ ν) : Catalog τ κ ν :=
  metadata.foldl (fun db m => if (db m.1).isSome then db else Function.update db m.1 (some m.2)) db

/-- Tables that are there stay; the others come to be as `metadata` has them. -/
theorem createAll_apply : ∀ {metadata : List (τ × Sheet κ ν)} (db : Catalog τ κ ν) (t : τ),
    createAll metadata db t = (db t).or (ofTables metadata t)
  | [], db, t => by simp [createAll, ofTables]
  | (t', s') :: metadata, db, t => by
      rw [createAll, List.foldl_cons, ← createAll, createAll_apply]
      by_cases h : (db t').isSome = true
      · rw [if_pos h]
        by_cases ht : t = t'
        · obtain ⟨s, hs⟩ := Option.isSome_iff_exists.mp h
          rw [ht, hs, Option.some_or, Option.some_or]
        · rw [ofTables, if_neg ht]
      · rw [if_neg h]
        by_cases ht : t = t'
        · subst ht
          have hn : db t = none := by simpa using h
          rw [Function.update_self, hn, Option.some_or, Option.none_or, ofTables, if_pos rfl]
        · rw [Function.update_of_ne ht, ofTables, if_neg ht]

variable [DecidableEq κ]

/-- `ALTER TABLE t ADD COLUMN c … DEFAULT v` -/
def alter (db : Catalog τ κ ν) (a : Additive τ κ ν) : Option (Catalog τ κ ν) :=
  ((db a.table).bind fun s => s.addColumn a.column a.default).map fun s =>
    Function.update db a.table (some s)

/-- A column that `inspector` does not show is added, where its table is. -/
def addOne (inspector : Catalog τ κ ν) (db : Catalog τ κ ν) (a : Additive τ κ ν) :
    Option (Catalog τ κ ν) :=
  match inspector a.table with
  | none => some db
  | some s => if a.column ∈ s.columns then some db else alter db a

def addMissing (inspector : Catalog τ κ ν) (l : List (Additive τ κ ν)) (db : Catalog τ κ ν) :
    Option (Catalog τ κ ν) :=
  l.foldlM (addOne inspector) db

/-- The columns of `l` that `s`, the table `t`, is without. -/
def missing (l : List (Additive τ κ ν)) (t : τ) (s : Sheet κ ν) : List (κ × ν) :=
  (l.filter fun a => decide (a.table = t ∧ a.column ∉ s.columns)).map fun a => (a.column, a.default)

theorem mem_missing {l : List (Additive τ κ ν)} {t : τ} {s : Sheet κ ν} {c : κ} {v : ν} :
    (c, v) ∈ missing l t s ↔ c ∉ s.columns ∧ ⟨t, c, v⟩ ∈ l := by
  simp only [missing, List.mem_map, List.mem_filter, decide_eq_true_iff, Prod.mk.injEq]
  constructor
  · rintro ⟨⟨t, c, v⟩, ⟨ha, rfl, hc⟩, rfl, rfl⟩
    exact ⟨hc, ha⟩
  · rintro ⟨hc, ha⟩
    exact ⟨⟨t, c, v⟩, ⟨ha, rfl, hc⟩, rfl, rfl⟩

theorem mem_missing_columns {l : List (Additive τ κ ν)} {t : τ} {s : Sheet κ ν} {c : κ} :
    c ∈ (missing l t s).map Prod.fst ↔ c ∉ s.columns ∧ ∃ v, ⟨t, c, v⟩ ∈ l := by
  simp only [List.mem_map, Prod.exists, mem_missing, exists_and_right, exists_eq_right,
    exists_and_left]

/-- A table that has the columns of `l` is without none. -/
theorem missing_eq_nil {l : List (Additive τ κ ν)} {t : τ} {s : Sheet κ ν}
    (h : ∀ c v, ⟨t, c, v⟩ ∈ l → c ∈ s.columns) : missing l t s = [] := by
  refine List.eq_nil_iff_forall_not_mem.mpr fun ⟨c, v⟩ hm => ?_
  obtain ⟨hc, ha⟩ := mem_missing.mp hm
  exact hc (h c v ha)

/-- One column for one table is added where it is missing. -/
theorem alter_spec {db : Catalog τ κ ν} {a : Additive τ κ ν} {s : Sheet κ ν}
    (hs : db a.table = some s) (hc : a.column ∉ s.columns) :
    ∃ s', alter db a = some (Function.update db a.table (some s')) ∧
      s.Grows s' [(a.column, a.default)] := by
  have hadd : ∃ s', s.addColumn a.column a.default = some s' := by
    rw [Sheet.addColumn, dif_neg hc]
    exact ⟨_, rfl⟩
  obtain ⟨s', hs'⟩ := hadd
  refine ⟨s', ?_, .of_addColumn hs'⟩
  rw [alter, hs, Option.bind_some, hs', Option.map_some]

theorem missing_cons (a : Additive τ κ ν) (l : List (Additive τ κ ν)) (t : τ) (s : Sheet κ ν) :
    missing (a :: l) t s = missing [a] t s ++ missing l t s := by
  rw [missing, missing, missing, ← List.map_append, ← List.filter_append]
  rfl

/-- `db'` has the tables of `db`, each with the columns of `l` that it is without in `inspector`. -/
def Adds (inspector : Catalog τ κ ν) (l : List (Additive τ κ ν)) (db db' : Catalog τ κ ν) : Prop :=
  (∀ t, inspector t = none → db' t = none) ∧
    ∀ t s, inspector t = some s → ∃ cur s', db t = some cur ∧ db' t = some s' ∧
      cur.Grows s' (missing l t s)

variable {inspector db : Catalog τ κ ν} {a : Additive τ κ ν} {l : List (Additive τ κ ν)}

theorem addOne_spec (h : Shows inspector (a :: l) db) :
    ∃ db', addOne inspector db a = some db' ∧ Adds inspector [a] db db' := by
  obtain ⟨hnone, hsome⟩ := h
  -- the database stays as it is where the table is missing, and where it has the column
  have stay : (∀ t s, inspector t = some s → a.table = t → a.column ∈ s.columns) →
      Adds inspector [a] db db := by
    refine fun h => ⟨hnone, fun t s hs => ?_⟩
    obtain ⟨cur, hcur, -⟩ := hsome t s hs
    rw [missing_eq_nil fun c v ha => ?_]
    · exact ⟨cur, cur, hcur, hcur, .refl cur⟩
    · cases List.mem_singleton.mp ha
      exact h t s hs rfl
  unfold addOne
  split
  · rename_i hi
    refine ⟨db, rfl, stay fun t s hs ht => ?_⟩
    rw [ht, hs] at hi
    cases hi
  · rename_i s₀ hi
    split
    · rename_i hc
      refine ⟨db, rfl, stay fun t s hs ht => ?_⟩
      rw [ht, hs] at hi
      cases hi
      exact hc
    · rename_i hc
      obtain ⟨cur₀, hcur₀, heq⟩ := hsome a.table s₀ hi
      obtain ⟨s₁, hs₁, hg⟩ := alter_spec hcur₀ fun h => hc ((heq a List.mem_cons_self rfl).mp h)
      refine ⟨_, hs₁, fun t ht => ?_, fun t s hs => ?_⟩
      · rw [Function.update_of_ne (fun h => by rw [← h, ht] at hi; cases hi)]
        exact hnone t ht
      · by_cases ht : a.table = t
        · subst ht
          cases hi.symm.trans hs
          refine ⟨cur₀, s₁, hcur₀, Function.update_self .., ?_⟩
          rwa [missing, List.filter_cons_of_pos (by simpa using hc)]
        · obtain ⟨cur, hcur, -⟩ := hsome t s hs
          have none_missing : missing [a] t s = [] := missing_eq_nil fun c v ha => by
            cases List.mem_singleton.mp ha
            exact absurd rfl ht
          rw [none_missing]
          exact ⟨cur, cur, hcur, by rw [Function.update_of_ne (Ne.symm ht), hcur], .refl cur⟩

/-- **Additive migration.**  Where `l` lists no column of a table twice, the migration succeeds, and
adds exactly what is missing. -/
theorem addMissing_spec : ∀ {l : List (Additive τ κ ν)} {db : Catalog τ κ ν},
    (l.map fun a => (a.table, a.column)).Nodup → Shows inspector l db →
    ∃ db', addMissing inspector l db = some db' ∧ Adds inspector l db db'
  | [], db, _, h => by
      refine ⟨db, rfl, h.1, fun t s hs => ?_⟩
      obtain ⟨cur, hcur, -⟩ := h.2 t s hs
      exact ⟨cur, cur, hcur, hcur, .refl cur⟩
  | a :: l, db, hd, h => by
      rw [List.map_cons, List.nodup_cons] at hd
      obtain ⟨db₁, hdb₁, hnone₁, hadds⟩ := addOne_spec h
      -- the column just added is not among those to come
      have shows₁ : Shows inspector l db₁ := by
        refine ⟨hnone₁, fun t s hs => ?_⟩
        obtain ⟨cur, cur₁, hcur, hcur₁, hg⟩ := hadds t s hs
        refine ⟨cur₁, hcur₁, fun b hb hbt => ?_⟩
        obtain ⟨_, hcur', heq⟩ := h.2 t s hs
        cases hcur.symm.trans hcur'
        rw [hg.mem_columns, heq b (List.mem_cons_of_mem _ hb) hbt, mem_missing_columns]
        refine or_iff_left fun ⟨_, v, hv⟩ => hd.1 (List.mem_map.mpr ⟨b, hb, ?_⟩)
        rw [hbt, ← List.mem_singleton.mp hv]
      obtain ⟨db', hdb', hnone', hadds'⟩ := addMissing_spec hd.2 shows₁
      refine ⟨db', ?_, hnone', fun t s hs => ?_⟩
      · rw [addMissing, List.foldlM_cons, hdb₁]
        exact hdb'
      · obtain ⟨cur, cur₁, hcur, hcur₁, hg⟩ := hadds t s hs
        obtain ⟨_, s', hcur₁', hs', hg'⟩ := hadds' t s hs
        cases hcur₁.symm.trans hcur₁'
        rw [missing_cons]
        exact ⟨cur, s', hcur, hs', hg.trans hg'⟩

/-- Where nothing is missing, nothing is done. -/
theorem addMissing_of_complete
    (h : ∀ a ∈ l, ∀ s, inspector a.table = some s → a.column ∈ s.columns) :
    addMissing inspector l db = some db := by
  induction l with
  | nil => rfl
  | cons a l ih =>
      have one : addOne inspector db a = some db := by
        unfold addOne
        split
        · rfl
        · rename_i s hs
          rw [if_pos (h a List.mem_cons_self s hs)]
      rw [addMissing, List.foldlM_cons, one]
      exact ih fun b hb => h b (List.mem_cons_of_mem _ hb)

end Catalog

end Support

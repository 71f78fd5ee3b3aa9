import SentinelAI.Proxy.DbSession
import SentinelAI.Support.Runs

/-!
# Properties — Migration

A process opens the database of an earlier release: any tables, with any columns and rows.  The
start never fails, and nothing that was stored is lost (`initDb_upgrades`); the tables come to be
such that the application can read them exactly when what they were without is on the list of added
columns.  Along a run of starts and of writes, only the first start alters anything
(`initDb_of_started`).

A write of the application changes rows, never columns.
-/

namespace SentinelAI
open Support

/-- The columns that tables were given after they had shipped, in the order of the two loops. -/
def addedColumns : List (Additive Str Str Cell) :=
  TABLES_NEEDING_PROJECT_ID.map (⟨·, "project_id", .null⟩) ++ ADDITIVE_COLUMNS

/-- The column came to the table in a later release, and holds `v` in the rows of earlier ones. -/
def AddedColumn (t c : Str) (v : Cell) : Prop := ⟨t, c, v⟩ ∈ addedColumns

/-- `db'` is `db` upgraded: tables that were missing are there and empty, and every other table has
its columns, its rows and in them its cells, with the added columns it was without behind. -/
structure Upgraded (db db' : Storage) : Prop where
  created : ∀ t, db t = none → db' t = Catalog.ofTables Base.metadata t
  kept : ∀ t s, db t = some s → ∃ s' new, db' t = some s' ∧ s'.columns = s.columns ++ new ∧
    (∀ c, c ∈ new ↔ c ∉ s.columns ∧ ∃ v, AddedColumn t c v) ∧
    s'.rows.length = s.rows.length ∧
    ∀ (i : ℕ) (r : List Cell), s.rows[i]? = some r → ∃ r', s'.rows[i]? = some r' ∧
      (∀ c ∈ s.columns, s'.get r' c = s.get r c) ∧
      ∀ c ∈ new, ∃ v, AddedColumn t c v ∧ s'.get r' c = some v

/-- Every model of the application can be read. -/
def Readable (db : Storage) : Prop := ∀ m ∈ Base.metadata, (selectAll db m.1).isSome

/-- What a table of the application is without came to it in a later release. -/
def Upgradable (db : Storage) : Prop :=
  ∀ m ∈ Base.metadata, ∀ s, db m.1 = some s → ∀ c ∈ m.2.columns,
    c ∈ s.columns ∨ ∃ v, AddedColumn m.1 c v

/-! ### The lists -/

theorem nodup_addedColumns : (addedColumns.map fun a => (a.table, a.column)).Nodup := by
  decide +kernel

/-- The models have the columns that were added to their tables. -/
theorem mem_columns_of_added {t c : Str} {v : Cell} (h : AddedColumn t c v) {m : Sheet Str Cell}
    (hm : Catalog.ofTables Base.metadata t = some m) : c ∈ m.columns := by
  have all : ∀ a ∈ addedColumns,
      (Catalog.ofTables Base.metadata a.table).all (a.column ∈ ·.columns) = true := by
    decide +kernel
  have here := all _ h
  rw [hm] at here
  simpa using here

/-- The name of a model gives the model. -/
theorem ofTables_metadata : ∀ m ∈ Base.metadata, Catalog.ofTables Base.metadata m.1 = some m.2 := by
  intro m hm
  simp only [Base.metadata, List.mem_cons, List.not_mem_nil, or_false] at hm
  rcases hm with rfl | rfl | rfl | rfl | rfl | rfl | rfl | rfl | rfl | rfl <;> rfl

/-! ### One start -/

theorem migrateAddProjectIdColumns_eq (db : Storage) :
    migrateAddProjectIdColumns db = db.addMissing addedColumns db := by
  rw [Catalog.addMissing, addedColumns, List.foldlM_append]
  rfl

theorem initDb_spec (db : Storage) : ∃ db', initDb db = some db' ∧
    (∀ t, db t = none → db' t = Catalog.ofTables Base.metadata t) ∧
    ∀ t s, db t = some s →
      ∃ s', db' t = some s' ∧ s.Grows s' (Catalog.missing addedColumns t s) := by
  obtain ⟨db', hdb', hnone, hadds⟩ := Catalog.addMissing_spec nodup_addedColumns
    (Catalog.shows_self addedColumns (db.createAll Base.metadata))
  refine ⟨db', (migrateAddProjectIdColumns_eq _).trans hdb', fun t ht => ?_, fun t s hs => ?_⟩
  · have shown : db.createAll Base.metadata t = Catalog.ofTables Base.metadata t := by
      rw [Catalog.createAll_apply, ht, Option.none_or]
    cases hm : Catalog.ofTables Base.metadata t with
    | none => exact hnone t (shown.trans hm)
    | some m =>
        -- a table made just now has all the columns
        obtain ⟨_, s', hcur, hs', hg⟩ := hadds t m (shown.trans hm)
        cases (shown.trans hm).symm.trans hcur
        rw [Catalog.missing_eq_nil fun c v ha => mem_columns_of_added ha hm] at hg
        rw [hs', hg.eq_of_nil]
  · have shown : db.createAll Base.metadata t = some s := by
      rw [Catalog.createAll_apply, hs, Option.some_or]
    obtain ⟨_, s', hcur, hs', hg⟩ := hadds t s shown
    cases shown.symm.trans hcur
    exact ⟨s', hs', hg⟩

theorem upgraded_of_initDb {db db' : Storage} (h : initDb db = some db') : Upgraded db db' := by
  obtain ⟨_, hdb', hcreated, hkept⟩ := initDb_spec db
  cases h.symm.trans hdb'
  refine ⟨hcreated, fun t s hs => ?_⟩
  obtain ⟨s', hs', hg⟩ := hkept t s hs
  refine ⟨s', _, hs', hg.columns, fun c => Catalog.mem_missing_columns,
    by rw [hg.rows, List.length_map],
    fun i r hr => ⟨r ++ (Catalog.missing addedColumns t s).map Prod.snd, ?_, fun c hc => ?_,
      fun c hc => ?_⟩⟩
  · rw [hg.rows, List.getElem?_map, hr]
    rfl
  · exact hg.get_of_mem (List.mem_of_getElem? hr) hc
  · obtain ⟨⟨c, v⟩, hcv, rfl⟩ := List.mem_map.mp hc
    exact ⟨v, (Catalog.mem_missing.mp hcv).2, hg.get_of_new (List.mem_of_getElem? hr) hcv⟩

/-! ### What is so after a start -/

/-- The tables of the application are there, and the added columns in theirs. -/
structure Started (db : Storage) : Prop where
  tables : ∀ m ∈ Base.metadata, ∃ s, db m.1 = some s
  columns : ∀ t c v s, AddedColumn t c v → db t = some s → c ∈ s.columns

theorem started_of_initDb {db db' : Storage} (h : initDb db = some db') : Started db' := by
  obtain ⟨created, kept⟩ := upgraded_of_initDb h
  refine ⟨fun m hm => ?_, fun t c v s' hc hs' => ?_⟩
  · cases hs : db m.1 with
    | none => exact ⟨m.2, (created _ hs).trans (ofTables_metadata m hm)⟩
    | some s =>
        obtain ⟨s', _, hs', _⟩ := kept _ s hs
        exact ⟨s', hs'⟩
  · cases hs : db t with
    | none => exact mem_columns_of_added hc ((created t hs).symm.trans hs')
    | some s =>
        obtain ⟨_, new, hs'', hcols, hnew, _⟩ := kept t s hs
        cases hs'.symm.trans hs''
        rw [hcols, List.mem_append]
        exact (em (c ∈ s.columns)).imp_right fun hn => (hnew c).mpr ⟨hn, v, hc⟩

/-- A start finds nothing to do. -/
theorem Started.initDb_eq {db : Storage} (h : Started db) : initDb db = some db := by
  have created : db.createAll Base.metadata = db := by
    funext t
    rw [Catalog.createAll_apply]
    cases hm : Catalog.ofTables Base.metadata t with
    | none => exact Option.or_none
    | some m =>
        obtain ⟨s, hs⟩ := h.tables _ (Catalog.mem_of_ofTables hm)
        rw [hs, Option.some_or]
  rw [initDb, created, migrateAddProjectIdColumns_eq]
  exact Catalog.addMissing_of_complete fun a ha s hs => h.columns _ _ _ s ha hs

/-- A model can be read where its table has its columns: every row has a cell for each. -/
theorem isSome_selectAll {db : Storage} {m : Str × Sheet Str Cell} (hm : m ∈ Base.metadata) :
    (selectAll db m.1).isSome ↔ ∃ s, db m.1 = some s ∧ ∀ c ∈ m.2.columns, c ∈ s.columns := by
  rw [selectAll, ofTables_metadata m hm]
  cases hs : db m.1 with
  | none => simp
  | some s =>
      simp only [Option.bind_eq_bind, Option.bind_some, Option.some.injEq, exists_eq_left']
      split
      · rename_i hc
        refine iff_of_true ?_ hc
        exact Sheet.isSome_mapM fun r hr => Sheet.isSome_mapM fun c hcm =>
          Sheet.isSome_get hr (hc c hcm)
      · rename_i hc
        exact iff_of_false (by simp) hc

theorem Started.readable_iff {db : Storage} (h : Started db) : Readable db ↔ Upgradable db := by
  constructor
  · intro hr m hm s hs c hc
    obtain ⟨_, hs', hcols⟩ := (isSome_selectAll hm).mp (hr m hm)
    cases hs.symm.trans hs'
    exact .inl (hcols c hc)
  · intro hu m hm
    obtain ⟨s, hs⟩ := h.tables m hm
    refine (isSome_selectAll hm).mpr ⟨s, hs, fun c hc => ?_⟩
    exact (hu m hm s hs c hc).elim id fun ⟨v, hv⟩ => h.columns _ _ v s hv hs

/-! ### Runs -/

/-- What happens to the database of a deployment. -/
inductive StorageOp where
  /-- A process starts. -/
  | start
  /-- The application inserts, updates or deletes rows. -/
  | write
deriving DecidableEq

inductive StorageStep : Storage → StorageOp → Storage → Prop where
  | start {db db' : Storage} (h : initDb db = some db') : StorageStep db .start db'
  | write {db db' : Storage} (h : ∀ t, (db' t).map (·.columns) = (db t).map (·.columns)) :
      StorageStep db .write db'

/-- A write leaves each table its columns. -/
theorem columns_of_write {db db' : Storage}
    (h : ∀ t, (db' t).map (·.columns) = (db t).map (·.columns)) {t : Str} {s' : Sheet Str Cell}
    (hs' : db' t = some s') : ∃ s, db t = some s ∧ s.columns = s'.columns := by
  have here := h t
  rw [hs', Option.map_some] at here
  exact Option.map_eq_some_iff.mp here.symm

theorem StorageStep.upgradable_iff {db db' : Storage} {op : StorageOp}
    (h : StorageStep db op db') : Upgradable db ↔ Upgradable db' := by
  cases h with
  | start h =>
      obtain ⟨created, kept⟩ := upgraded_of_initDb h
      constructor
      · intro hu m hm s' hs' c hc
        cases hs : db m.1 with
        | none =>
            have made := (created _ hs).symm.trans hs'
            rw [ofTables_metadata m hm, Option.some.injEq] at made
            exact .inl (made ▸ hc)
        | some s =>
            obtain ⟨_, new, hs'', hcols, _⟩ := kept _ s hs
            cases hs'.symm.trans hs''
            rw [hcols, List.mem_append, or_assoc]
            exact (hu m hm s hs c hc).imp_right .inr
      · intro hu m hm s hs c hc
        obtain ⟨s', new, hs', hcols, hnew, _⟩ := kept _ s hs
        rcases hu m hm s' hs' c hc with h | h
        · rw [hcols, List.mem_append, hnew] at h
          exact h.imp_right And.right
        · exact .inr h
  | write h =>
      constructor
      · intro hu m hm s' hs' c hc
        obtain ⟨s, hs, hcols⟩ := columns_of_write h hs'
        exact hcols ▸ hu m hm s hs c hc
      · intro hu m hm s hs c hc
        obtain ⟨s', hs', hcols⟩ := columns_of_write (fun t => (h t).symm) hs
        exact hcols ▸ hu m hm s' hs' c hc

theorem StorageStep.started {db db' : Storage} {op : StorageOp} (h : StorageStep db op db')
    (hs : op = .start ∨ Started db) : Started db' := by
  cases h with
  | start h => exact started_of_initDb h
  | write h =>
      have hdb : Started db := hs.resolve_left (by simp)
      refine ⟨fun m hm => ?_, fun t c v s' hc hs' => ?_⟩
      · obtain ⟨s, hs⟩ := hdb.tables m hm
        obtain ⟨s', hs', -⟩ := columns_of_write (fun t => (h t).symm) hs
        exact ⟨s', hs'⟩
      · obtain ⟨s, hs, hcols⟩ := columns_of_write h hs'
        exact hcols ▸ hdb.columns t c v s hc hs

/-! ### Main results -/

/-- **Upgrade.**  Whatever database a process finds, it starts, loses nothing that is stored, and
can read every model exactly when the tables were without added columns only. -/
theorem initDb_upgrades (db : Storage) : ∃ db', initDb db = some db' ∧ Upgraded db db' ∧
    (Readable db' ↔ Upgradable db) := by
  obtain ⟨db', h, -⟩ := initDb_spec db
  exact ⟨db', h, upgraded_of_initDb h,
    (started_of_initDb h).readable_iff.trans (StorageStep.start h).upgradable_iff.symm⟩

/-- A database from before there were projects, with one security finding. -/
def beforeProjects : Storage := Catalog.ofTables
  [("findings",
    { columns := ["id", "test_id", "category", "severity", "title", "description",
        "affected_target", "evidence", "reproduction", "provider", "model", "status",
        "created_at", "updated_at"]
      rows := [[.integer 1, .text "prompt_injection.basic", .text "prompt_injection", .text "high",
        .text "Prompt injection", .text "Bypassed", .text "default", .text "{}", .text "{}",
        .text "mock", .text "m", .text "OPEN", .text "2026-01-01", .text "2026-01-02"]]
      nodup := by decide +kernel
      width := by decide +kernel })]

/-- The finding is read as one of no project. -/
example : (initDb beforeProjects).bind (selectAll · "findings") =
    some [[.integer 1, .null, .text "prompt_injection.basic", .text "prompt_injection",
      .text "high", .text "Prompt injection", .text "Bypassed", .text "default", .text "{}",
      .text "{}", .text "mock", .text "m", .text "OPEN", .text "2026-01-01",
      .text "2026-01-02"]] := by
  decide +kernel

/-- **Restarts.**  Once a process has started, whatever is written, further starts alter nothing,
and the models can be read where they could be after the first. -/
theorem initDb_of_started {db db' : Storage} {ops : List StorageOp}
    (run : Run StorageStep db ops db') (started : .start ∈ ops) :
    initDb db' = some db' ∧ (Readable db' ↔ Upgradable db) := by
  have upgradable : Upgradable db ↔ Upgradable db' :=
    run.relates (R := fun s s' => Upgradable s ↔ Upgradable s') (fun _ => Iff.rfl)
      (fun _ _ _ h h' => h.trans h') fun _ _ _ h => h.upgradable_iff
  have hs : Started db' := by
    refine run.history (I := fun ops db => .start ∈ ops → Started db) ?_ (by simp) started
    intro ops s op s' hstep ih hmem
    refine hstep.started ?_
    rcases List.mem_append.mp hmem with h | h
    · exact .inr (ih h)
    · exact .inl (List.mem_singleton.mp h).symm
  exact ⟨hs.initDb_eq, hs.readable_iff.trans upgradable.symm⟩

theorem initDb_of_started_beforeProjects : ∃ db' : Storage,
    Run StorageStep beforeProjects [.start, .write] db' ∧
      initDb db' = some db' ∧ (Readable db' ↔ Upgradable beforeProjects) := by
  obtain ⟨db', h, -⟩ := initDb_spec beforeProjects
  have run : Run StorageStep beforeProjects [.start, .write] db' :=
    .cons (.start h) (.one (.write fun _ => rfl))
  exact ⟨db', run, initDb_of_started run (by decide)⟩

end SentinelAI

import SentinelAI.Proxy.ApiKeys
import SentinelAI.Support.Runs

/-!
# Properties — KeyLifecycle

The API keys of all projects over a run of the functions that create, verify and revoke them.  What
the table of keys says, less names and times, is a register of entries; only a creation and a
successful revocation change it.

* `KeyStep.cases`: what a step does to the register.
* `Tracks`: the register and the steps taken so far agree; `tracks_run` says that they do in every
  run.
* `keysFollow_run`: a key verifies as the project it was created for, until that project revokes
  it.
-/

namespace SentinelAI
open Support

/-! ### The register -/

/-- What matters of a stored key. -/
structure KeyEntry where
  id : Int
  projectId : Int
  hash : Str
  revoked : Bool
deriving DecidableEq

def ProjectAPIKey.entry (k : ProjectAPIKey) : KeyEntry :=
  ⟨k.id, k.projectId, k.keyHash, k.revokedAt.isSome⟩

/-- The register of the stored keys. -/
def register (db : Db) : List KeyEntry := db.apiKeys.rows.map (·.entry)

/-- The register with the key `i` revoked. -/
def revokeEntry (i : Int) (c : KeyEntry) : KeyEntry :=
  if c.id = i then { c with revoked := true } else c

/-- A step of a run, with what the function returned. -/
inductive KeyEvent where
  | created (projectId keyId : Int) (rawKey : Str)
  | refused
  | verified (rawKey : Str) (project : Option Project)
  | revoked (projectId keyId : Int) (done : Bool)
  | other

/-- The key was created, and its project has not revoked it since. -/
def Live (as : List KeyEvent) (projectId keyId : Int) (rawKey : Str) : Prop :=
  ∃ before after, as = before ++ .created projectId keyId rawKey :: after ∧
    .revoked projectId keyId true ∉ after

theorem live_snoc {as : List KeyEvent} {e : KeyEvent} {p i : Int} {rawKey : Str} :
    Live (as ++ [e]) p i rawKey ↔
      e = .created p i rawKey ∨ Live as p i rawKey ∧ e ≠ .revoked p i true := by
  constructor
  · rintro ⟨before, after, h, hno⟩
    rcases List.eq_nil_or_concat after with rfl | ⟨after, e', rfl⟩
    · exact .inl (by simpa using (List.append_inj' h rfl).2)
    · rw [List.concat_eq_append, ← List.cons_append, ← List.append_assoc] at h
      obtain ⟨h, he⟩ := List.append_inj' h rfl
      rw [List.cons.injEq] at he
      rw [List.concat_eq_append, List.mem_append, not_or, List.mem_singleton] at hno
      exact .inr ⟨⟨before, after, h, hno.1⟩, fun hr => hno.2 (he.1 ▸ hr.symm)⟩
  · rintro (rfl | ⟨⟨before, after, rfl, hno⟩, he⟩)
    · exact ⟨as, [], rfl, List.not_mem_nil⟩
    · refine ⟨before, after ++ [e], by simp, ?_⟩
      rw [List.mem_append, List.mem_singleton]
      exact not_or.mpr ⟨hno, Ne.symm he⟩

/-- The register agrees with the steps taken so far. -/
structure Tracks (hash : Str → Str) (as : List KeyEvent) (R : List KeyEntry) : Prop where
  live : ∀ p i rawKey, Live as p i rawKey ↔ ⟨i, p, hash rawKey, false⟩ ∈ R
  created : ∀ p i rawKey, .created p i rawKey ∈ as → ∃ b, ⟨i, p, hash rawKey, b⟩ ∈ R
  issued : ∀ c ∈ R, ∃ rawKey, .created c.projectId c.id rawKey ∈ as ∧ c.hash = hash rawKey
  revoked : ∀ p i, .revoked p i true ∈ as → ∃ c ∈ R, c.id = i ∧ c.projectId = p ∧ c.revoked = true
  ids : (R.map (·.id)).Nodup
  hashes : (R.map (·.hash)).Nodup

namespace Tracks

variable {hash : Str → Str} {as : List KeyEvent} {R : List KeyEntry}

theorem nil : Tracks hash [] [] where
  live p i rawKey := by
    refine ⟨?_, fun h => absurd h List.not_mem_nil⟩
    rintro ⟨before, after, h, -⟩
    simp at h
  created _ _ _ h := absurd h List.not_mem_nil
  issued _ h := absurd h List.not_mem_nil
  revoked _ _ h := absurd h List.not_mem_nil
  ids := List.nodup_nil
  hashes := List.nodup_nil

/-- A key is created. -/
theorem create (h : Tracks hash as R) (hinj : Function.Injective hash) {p i : Int} {rawKey : Str}
    (hi : i ∉ R.map (·.id)) (hr : hash rawKey ∉ R.map (·.hash)) :
    Tracks hash (as ++ [.created p i rawKey]) (R ++ [⟨i, p, hash rawKey, false⟩]) where
  live p' i' rawKey' := by
    rw [live_snoc, h.live, List.mem_append, List.mem_singleton]
    constructor
    · rintro (he | ⟨hm, -⟩)
      · cases he
        exact .inr rfl
      · exact .inl hm
    · rintro (hm | he)
      · exact .inr ⟨hm, nofun⟩
      · rw [KeyEntry.mk.injEq] at he
        obtain ⟨rfl, rfl, hh, -⟩ := he
        exact .inl (by rw [hinj hh])
  created p' i' rawKey' hm := by
    rcases List.mem_append.mp hm with hm | hm
    · obtain ⟨b, hb⟩ := h.created p' i' rawKey' hm
      exact ⟨b, List.mem_append_left _ hb⟩
    · cases List.mem_singleton.mp hm
      exact ⟨false, List.mem_append_right _ (List.mem_singleton_self _)⟩
  issued c hc := by
    rcases List.mem_append.mp hc with hc | hc
    · obtain ⟨rawKey', hm, hh⟩ := h.issued c hc
      exact ⟨rawKey', List.mem_append_left _ hm, hh⟩
    · rw [List.mem_singleton.mp hc]
      exact ⟨rawKey, List.mem_append_right _ (List.mem_singleton_self _), rfl⟩
  revoked p' i' hm := by
    rcases List.mem_append.mp hm with hm | hm
    · obtain ⟨c, hc, hid⟩ := h.revoked p' i' hm
      exact ⟨c, List.mem_append_left _ hc, hid⟩
    · cases List.mem_singleton.mp hm
  ids := by
    rw [List.map_append, List.map_singleton]
    exact h.ids.append (List.nodup_singleton i) (List.disjoint_singleton.mpr hi)
  hashes := by
    rw [List.map_append, List.map_singleton]
    exact h.hashes.append (List.nodup_singleton _) (List.disjoint_singleton.mpr hr)

theorem revokeEntry_frame (i : Int) (c : KeyEntry) : (revokeEntry i c).id = c.id ∧
    (revokeEntry i c).projectId = c.projectId ∧ (revokeEntry i c).hash = c.hash := by
  unfold revokeEntry
  split <;> exact ⟨rfl, rfl, rfl⟩

/-- The keys that are left when one is revoked. -/
theorem mem_map_revokeEntry {i i' p' : Int} {x : Str} :
    (⟨i', p', x, false⟩ : KeyEntry) ∈ R.map (revokeEntry i) ↔ ⟨i', p', x, false⟩ ∈ R ∧ i' ≠ i := by
  rw [List.mem_map]
  constructor
  · rintro ⟨c, hc, he⟩
    unfold revokeEntry at he
    split at he
    · cases congrArg KeyEntry.revoked he
    · rename_i hne
      rw [he] at hc hne
      exact ⟨hc, hne⟩
  · rintro ⟨hm, hne⟩
    exact ⟨_, hm, if_neg hne⟩

/-- A key is revoked by its project. -/
theorem revoke (h : Tracks hash as R) {p i : Int} {c : KeyEntry} (hc : c ∈ R) (hi : c.id = i)
    (hp : c.projectId = p) :
    Tracks hash (as ++ [.revoked p i true]) (R.map (revokeEntry i)) where
  live p' i' rawKey' := by
    rw [live_snoc, or_iff_right nofun, h.live, mem_map_revokeEntry]
    refine and_congr_right fun hm => not_congr ⟨fun he => ?_, fun hii => ?_⟩
    · cases he
      rfl
    · -- ids are not shared, so the key of this id belongs to the project that revokes it
      have same := List.inj_on_of_nodup_map h.ids hm hc (hii.trans hi.symm)
      rw [← hp, ← same, hii]
  created p' i' rawKey' hm := by
    obtain ⟨b, hb⟩ := h.created p' i' rawKey' (by simpa using hm)
    refine ⟨(revokeEntry i ⟨i', p', hash rawKey', b⟩).revoked, List.mem_map.mpr ⟨_, hb, ?_⟩⟩
    unfold revokeEntry
    split <;> rfl
  issued c' hc' := by
    obtain ⟨c₀, hc₀, rfl⟩ := List.mem_map.mp hc'
    obtain ⟨rawKey, hm, hh⟩ := h.issued c₀ hc₀
    obtain ⟨h₁, h₂, h₃⟩ := revokeEntry_frame i c₀
    rw [h₁, h₂, h₃]
    exact ⟨rawKey, List.mem_append_left _ hm, hh⟩
  revoked p' i' hm := by
    have marked (c₀ : KeyEntry) (hr : c₀.id = i ∨ c₀.revoked = true) :
        (revokeEntry i c₀).revoked = true := by
      unfold revokeEntry
      split
      · rfl
      · exact hr.resolve_left ‹_›
    rcases List.mem_append.mp hm with hm | hm
    · obtain ⟨c₀, hc₀, hid, hpr, hr⟩ := h.revoked p' i' hm
      obtain ⟨h₁, h₂, -⟩ := revokeEntry_frame i c₀
      exact ⟨_, List.mem_map.mpr ⟨c₀, hc₀, rfl⟩, h₁.trans hid, h₂.trans hpr, marked c₀ (.inr hr)⟩
    · cases List.mem_singleton.mp hm
      obtain ⟨h₁, h₂, -⟩ := revokeEntry_frame i c
      exact ⟨_, List.mem_map.mpr ⟨c, hc, rfl⟩, h₁.trans hi, h₂.trans hp, marked c (.inl hi)⟩
  ids := by
    have same : R.map ((·.id) ∘ revokeEntry i) = R.map (·.id) :=
      List.map_congr_left fun c _ => (revokeEntry_frame i c).1
    rw [List.map_map, same]
    exact h.ids
  hashes := by
    have same : R.map ((·.hash) ∘ revokeEntry i) = R.map (·.hash) :=
      List.map_congr_left fun c _ => (revokeEntry_frame i c).2.2
    rw [List.map_map, same]
    exact h.hashes

/-- A step that leaves the register as it is and neither creates nor revokes. -/
theorem keep (h : Tracks hash as R) {e : KeyEvent} (hc : ∀ p i rawKey, e ≠ .created p i rawKey)
    (hr : ∀ p i, e ≠ .revoked p i true) : Tracks hash (as ++ [e]) R where
  live p i rawKey := by
    rw [live_snoc, h.live, or_iff_right (hc p i rawKey), and_iff_left (hr p i)]
  created p i rawKey hm := by
    rcases List.mem_append.mp hm with hm | hm
    · exact h.created p i rawKey hm
    · exact absurd (List.mem_singleton.mp hm).symm (hc p i rawKey)
  issued c hm := by
    obtain ⟨rawKey, hm, hh⟩ := h.issued c hm
    exact ⟨rawKey, List.mem_append_left _ hm, hh⟩
  revoked p i hm := by
    rcases List.mem_append.mp hm with hm | hm
    · exact h.revoked p i hm
    · exact absurd (List.mem_singleton.mp hm).symm (hr p i)
  ids := h.ids
  hashes := h.hashes

end Tracks

/-! ### The functions -/

variable (cfg : Config)

/-- One call, in a database whose projects may have changed meanwhile but were not deleted. -/
inductive KeyStep : Db → KeyEvent → Db → Prop where
  | create {db : Db} {tick : Tick} {project : Project} {name : Str} {row : ProjectAPIKey}
      {rawKey : Str} {t : Table ProjectAPIKey} (hp : project ∈ db.projects.rows)
      (h : createApiKey cfg tick db.apiKeys project.id name = some (row, rawKey, t)) :
      KeyStep db (.created project.id row.id rawKey) { db with apiKeys := t }
  | refuse {db : Db} {tick : Tick} {projectId : Int} {name : Str}
      (h : createApiKey cfg tick db.apiKeys projectId name = none) : KeyStep db .refused db
  | verify (db : Db) (tick : Tick) (rawKey : Str) :
      KeyStep db (.verified rawKey (verifyApiKey cfg tick db rawKey).1)
        (verifyApiKey cfg tick db rawKey).2
  | revoke {db : Db} {projectId keyId : Int} {now : Time} {t : Table ProjectAPIKey}
      (h : revokeApiKey db.apiKeys projectId keyId now = some t) :
      KeyStep db (.revoked projectId keyId true) { db with apiKeys := t }
  | notFound {db : Db} {projectId keyId : Int} {now : Time}
      (h : revokeApiKey db.apiKeys projectId keyId now = none) :
      KeyStep db (.revoked projectId keyId false) db
  | other {db db' : Db} (hk : db'.apiKeys = db.apiKeys)
      (hp : ∀ p ∈ db.projects.rows, ∃ p' ∈ db'.projects.rows, p'.id = p.id) : KeyStep db .other db'

variable {cfg}

theorem resolveApiKey_eq_some {db : Db} {rawKey : Str} {k : ProjectAPIKey} {project : Project} :
    resolveApiKey cfg db rawKey = some (k, project) ↔ startsWith rawKey KEY_PREFIX = true ∧
      db.apiKeys.rows.find? (·.keyHash == cfg.sha256 rawKey) = some k ∧ k.revokedAt = none ∧
        db.projects.find? k.projectId = some project := by
  unfold resolveApiKey
  split
  · rename_i hs
    rw [and_iff_right hs]
    cases db.apiKeys.rows.find? (·.keyHash == cfg.sha256 rawKey) with
    | none => simp
    | some row =>
        dsimp only
        split
        · rename_i hr
          refine ⟨fun h => (nomatch h), ?_⟩
          rintro ⟨he, hn, -⟩
          cases he
          rw [hn] at hr
          cases hr
        · rename_i hr
          rw [Bool.not_eq_true, Option.isSome_eq_false_iff, Option.isNone_iff_eq_none] at hr
          rw [Option.map_eq_some_iff]
          constructor
          · rintro ⟨project', hp, he⟩
            cases he
            exact ⟨rfl, hr, hp⟩
          · rintro ⟨he, -, hp⟩
            cases he
            exact ⟨project, hp, rfl⟩
  · rename_i hs
    exact ⟨fun h => (nomatch h), fun h => absurd h.1 hs⟩

/-- Verifying a key changes at most its stamp, also where writing it fails. -/
theorem verifyApiKey_rows (tick : Tick) (db : Db) (rawKey : Str) :
    ∃ stamp : ProjectAPIKey → Option Time,
      (verifyApiKey cfg tick db rawKey).2.apiKeys.rows =
        db.apiKeys.rows.map (fun k => { k with lastUsedAt := stamp k }) ∧
      ∀ k ∈ db.apiKeys.rows, stamp k ≠ k.lastUsedAt →
        ∃ project, resolveApiKey cfg db rawKey = some (k, project) := by
  rcases verifyApiKey_snd cfg tick db rawKey with h | ⟨row, project, hr, h⟩
  · refine ⟨(·.lastUsedAt), ?_, fun k _ hne => absurd rfl hne⟩
    rw [h]
    exact (List.map_id _).symm
  · refine ⟨fun k => if k.id = row.id then some tick.now else k.lastUsedAt, ?_, ?_⟩
    · rw [h]
      refine List.map_congr_left fun k _ => ?_
      change (if k.id = row.id then { k.stamped tick.now with id := row.id } else k) =
        { k with lastUsedAt := if k.id = row.id then some tick.now else k.lastUsedAt }
      by_cases hk : k.id = row.id
      · rw [if_pos hk, if_pos hk, ← hk]
        rfl
      · rw [if_neg hk, if_neg hk]
    · intro k hk hne
      have hid : k.id = row.id := by
        by_contra hid
        exact hne (if_neg hid)
      have hrow := List.mem_of_find?_eq_some (resolveApiKey_eq_some.mp hr).2.1
      rw [Table.eq_of_key hk hrow hid]
      exact ⟨project, hr⟩

theorem verifyApiKey_frame (tick : Tick) (db : Db) (rawKey : Str) :
    (verifyApiKey cfg tick db rawKey).2 =
      { db with apiKeys := (verifyApiKey cfg tick db rawKey).2.apiKeys } := by
  rcases verifyApiKey_snd cfg tick db rawKey with h | ⟨row, project, -, h⟩ <;> rw [h]

/-- What a creation adds to the table. -/
theorem createApiKey_eq_some {tick : Tick} {t t' : Table ProjectAPIKey} {projectId : Int}
    {name rawKey : Str} {row : ProjectAPIKey}
    (h : createApiKey cfg tick t projectId name = some (row, rawKey, t')) :
    rawKey = KEY_PREFIX ++ tick.tokenHex ∧ (∀ k ∈ t.rows, k.keyHash ≠ cfg.sha256 rawKey) ∧
      (∀ k ∈ t.rows, k.id ≠ row.id) ∧ t'.rows = t.rows ++ [row] ∧
      row.entry = ⟨row.id, projectId, cfg.sha256 rawKey, false⟩ := by
  unfold createApiKey at h
  dsimp only at h
  split at h
  · cases h
  · rename_i hno
    cases h
    refine ⟨rfl, fun k hk he => hno (List.any_eq_true.mpr ⟨k, hk, beq_iff_eq.mpr he⟩), ?_, rfl, rfl⟩
    intro k hk
    exact (Table.key_lt_nextKey hk).ne

/-- Who can revoke a key, and what it does to the register. -/
theorem revokeApiKey_eq_some {t t' : Table ProjectAPIKey} {projectId keyId : Int} {now : Time}
    (h : revokeApiKey t projectId keyId now = some t') :
    (∃ k ∈ t.rows, k.id = keyId ∧ k.projectId = projectId) ∧
      t'.rows.map (·.entry) = (t.rows.map (·.entry)).map (revokeEntry keyId) := by
  unfold revokeApiKey at h
  cases hf : t.find? keyId with
  | none =>
      rw [hf] at h
      cases h
  | some row =>
      rw [hf] at h
      dsimp only at h
      split at h
      · rename_i hp
        cases h
        obtain ⟨hrow, hid⟩ := Table.find?_eq_some_iff.mp hf
        refine ⟨⟨row, hrow, hid, hp⟩, ?_⟩
        rw [List.map_map]
        change (t.rows.map _).map _ = _
        rw [List.map_map]
        refine List.map_congr_left fun k _ => ?_
        change (if k.id = keyId then { k with revokedAt := some now, id := keyId } else k).entry =
          revokeEntry keyId k.entry
        unfold revokeEntry
        change _ = if k.id = keyId then _ else _
        by_cases hk : k.id = keyId
        · rw [if_pos hk, if_pos hk, ← hk]
          rfl
        · rw [if_neg hk, if_neg hk]
      · cases h

/-! ### Runs -/

/-- The steps taken so far account for the keys, and every key has its project. -/
structure KeyInv (cfg : Config) (as : List KeyEvent) (db : Db) : Prop where
  tracks : Tracks cfg.sha256 as (register db)
  raw : ∀ p i rawKey, .created p i rawKey ∈ as → startsWith rawKey KEY_PREFIX = true
  homes : ∀ c ∈ register db, ∃ project ∈ db.projects.rows, project.id = c.projectId

namespace KeyInv

variable {as : List KeyEvent} {db db' : Db} {e : KeyEvent}

theorem raw_keep (h : KeyInv cfg as db) (hc : ∀ p i rawKey, e ≠ .created p i rawKey) :
    ∀ p i rawKey, .created p i rawKey ∈ as ++ [e] → startsWith rawKey KEY_PREFIX = true := by
  intro p i rawKey hm
  rcases List.mem_append.mp hm with hm | hm
  · exact h.raw p i rawKey hm
  · exact absurd (List.mem_singleton.mp hm).symm (hc p i rawKey)

/-- A step that leaves the keys as they are, and loses no project. -/
theorem keep (h : KeyInv cfg as db) (hc : ∀ p i rawKey, e ≠ .created p i rawKey)
    (hr : ∀ p i, e ≠ .revoked p i true) (hreg : register db' = register db)
    (hp : ∀ p ∈ db.projects.rows, ∃ p' ∈ db'.projects.rows, p'.id = p.id) :
    KeyInv cfg (as ++ [e]) db' := by
  refine ⟨?_, h.raw_keep hc, ?_⟩
  · rw [hreg]
    exact h.tracks.keep hc hr
  · rw [hreg]
    intro c hcm
    obtain ⟨project, hm, he⟩ := h.homes c hcm
    obtain ⟨project', hm', he'⟩ := hp project hm
    exact ⟨project', hm', he'.trans he⟩

theorem create (h : KeyInv cfg as db) (hinj : Function.Injective cfg.sha256) {tick : Tick}
    {project : Project} {name rawKey : Str} {row : ProjectAPIKey} {t : Table ProjectAPIKey}
    (hp : project ∈ db.projects.rows)
    (hcr : createApiKey cfg tick db.apiKeys project.id name = some (row, rawKey, t)) :
    KeyInv cfg (as ++ [.created project.id row.id rawKey]) { db with apiKeys := t } := by
  obtain ⟨hraw, hhash, hid, hrows, hentry⟩ := createApiKey_eq_some hcr
  have hreg : register { db with apiKeys := t } =
      register db ++ [⟨row.id, project.id, cfg.sha256 rawKey, false⟩] := by
    rw [register, hrows, List.map_append, List.map_singleton, hentry]
    rfl
  refine ⟨?_, ?_, ?_⟩
  · rw [hreg]
    refine h.tracks.create hinj ?_ ?_
    · rw [register, List.map_map, List.mem_map]
      rintro ⟨k, hk, he⟩
      exact hid k hk he
    · rw [register, List.map_map, List.mem_map]
      rintro ⟨k, hk, he⟩
      exact hhash k hk he
  · intro p i rawKey' hm
    rcases List.mem_append.mp hm with hm | hm
    · exact h.raw p i rawKey' hm
    · cases List.mem_singleton.mp hm
      rw [hraw]
      exact List.isPrefixOf_iff_prefix.mpr (List.prefix_append _ _)
  · rw [hreg]
    intro c hc
    rcases List.mem_append.mp hc with hc | hc
    · exact h.homes c hc
    · rw [List.mem_singleton.mp hc]
      exact ⟨project, hp, rfl⟩

theorem revoke (h : KeyInv cfg as db) {projectId keyId : Int} {now : Time}
    {t : Table ProjectAPIKey} (hrev : revokeApiKey db.apiKeys projectId keyId now = some t) :
    KeyInv cfg (as ++ [.revoked projectId keyId true]) { db with apiKeys := t } := by
  obtain ⟨⟨k, hk, hid, hp⟩, hrows⟩ := revokeApiKey_eq_some hrev
  have hreg : register { db with apiKeys := t } = (register db).map (revokeEntry keyId) := hrows
  refine ⟨?_, h.raw_keep nofun, ?_⟩
  · have hm : k.entry ∈ register db := List.mem_map.mpr ⟨k, hk, rfl⟩
    rw [hreg]
    exact h.tracks.revoke hm hid hp
  · rw [hreg]
    intro c hc
    obtain ⟨c₀, hc₀, rfl⟩ := List.mem_map.mp hc
    obtain ⟨project, hp, he⟩ := h.homes c₀ hc₀
    exact ⟨project, hp, he.trans (Tracks.revokeEntry_frame keyId c₀).2.1.symm⟩

theorem step (hinj : Function.Injective cfg.sha256) (hstep : KeyStep cfg db e db')
    (h : KeyInv cfg as db) : KeyInv cfg (as ++ [e]) db' := by
  have same : ∀ p ∈ db.projects.rows, ∃ p' ∈ db.projects.rows, p'.id = p.id :=
    fun p hp => ⟨p, hp, rfl⟩
  cases hstep with
  | create hp hcr => exact h.create hinj hp hcr
  | refuse _ => exact h.keep nofun nofun rfl same
  | verify tick rawKey =>
      obtain ⟨stamp, hrows, -⟩ := verifyApiKey_rows tick db rawKey
      have hreg : register (verifyApiKey cfg tick db rawKey).2 = register db := by
        rw [register, hrows, List.map_map]
        rfl
      refine h.keep nofun nofun hreg ?_
      rw [verifyApiKey_frame]
      exact same
  | revoke hrev => exact h.revoke hrev
  | notFound _ => exact h.keep nofun nofun rfl same
  | other hk hp => exact h.keep nofun nofun (by rw [register, hk, register]) hp

end KeyInv

theorem keyInv_run (hinj : Function.Injective cfg.sha256) {db₀ db : Db} {as : List KeyEvent}
    (h₀ : db₀.apiKeys = .empty) (h : Run (KeyStep cfg) db₀ as db) : KeyInv cfg as db := by
  refine h.history (fun as db e db' hstep hI => hI.step hinj hstep) ⟨?_, ?_, ?_⟩
  · rw [register, h₀]
    exact .nil
  · exact fun _ _ _ hm => absurd hm List.not_mem_nil
  · rw [register, h₀]
    exact fun _ hm => absurd hm List.not_mem_nil

section Verify

variable {as : List KeyEvent} {db : Db}

theorem Live.created {p i : Int} {rawKey : Str} (h : Live as p i rawKey) :
    .created p i rawKey ∈ as := by
  obtain ⟨before, after, rfl, -⟩ := h
  exact List.mem_append_right _ List.mem_cons_self

/-- The row of an entry is the one of its id. -/
theorem entry_eq_of_mem_register {k : ProjectAPIKey} (hk : k ∈ db.apiKeys.rows) {c : KeyEntry}
    (hc : c ∈ register db) (hid : c.id = k.id) : c = k.entry := by
  obtain ⟨k', hk', rfl⟩ := List.mem_map.mp hc
  rw [Table.eq_of_key hk' hk hid]

/-- The row that a raw key resolves to is the one of its hash. -/
theorem find?_hash (h : KeyInv cfg as db) {rawKey : Str} {k : ProjectAPIKey}
    (hk : k ∈ db.apiKeys.rows) (hh : k.keyHash = cfg.sha256 rawKey) :
    db.apiKeys.rows.find? (·.keyHash == cfg.sha256 rawKey) = some k := by
  cases hf : db.apiKeys.rows.find? (·.keyHash == cfg.sha256 rawKey) with
  | none => exact absurd (beq_iff_eq.mpr hh) (List.find?_eq_none.mp hf k hk)
  | some k' =>
      have hk' := List.mem_of_find?_eq_some hf
      have hh' : k'.keyHash = cfg.sha256 rawKey := by simpa using List.find?_some hf
      have hnd : (db.apiKeys.rows.map (·.keyHash)).Nodup := by
        have := h.tracks.hashes
        rwa [register, List.map_map] at this
      rw [List.inj_on_of_nodup_map hnd hk' hk (hh'.trans hh.symm)]

/-- **What a raw key resolves to** is told by the steps taken so far. -/
theorem resolves_iff (h : KeyInv cfg as db) {rawKey : Str} {k : ProjectAPIKey} :
    (∃ project, resolveApiKey cfg db rawKey = some (k, project)) ↔
      k ∈ db.apiKeys.rows ∧ Live as k.projectId k.id rawKey := by
  constructor
  · rintro ⟨project, hr⟩
    obtain ⟨-, hf, hn, -⟩ := resolveApiKey_eq_some.mp hr
    have hk := List.mem_of_find?_eq_some hf
    have hh : k.keyHash = cfg.sha256 rawKey := by simpa using List.find?_some hf
    refine ⟨hk, (h.tracks.live _ _ _).mpr (List.mem_map.mpr ⟨k, hk, ?_⟩)⟩
    rw [ProjectAPIKey.entry, hh, hn]
    rfl
  · rintro ⟨hk, hl⟩
    have he := entry_eq_of_mem_register hk ((h.tracks.live _ _ _).mp hl) rfl
    have hh : cfg.sha256 rawKey = k.keyHash := congrArg KeyEntry.hash he
    have hn : k.revokedAt = none := by
      have := congrArg KeyEntry.revoked he
      rwa [← Option.isNone_iff_eq_none, ← Option.isSome_eq_false_iff, eq_comm]
    obtain ⟨project, hp, hid⟩ := h.homes _ (List.mem_map.mpr ⟨k, hk, rfl⟩)
    exact ⟨project, resolveApiKey_eq_some.mpr ⟨h.raw _ _ _ hl.created, find?_hash h hk hh.symm, hn,
      Table.find?_eq_some_iff.mpr ⟨hp, hid⟩⟩⟩

/-- A live key has its row. -/
theorem Live.exists_row (h : KeyInv cfg as db) {p i : Int} {rawKey : Str}
    (hl : Live as p i rawKey) : ∃ k ∈ db.apiKeys.rows, k.id = i ∧ k.projectId = p := by
  obtain ⟨k, hk, he⟩ := List.mem_map.mp ((h.tracks.live _ _ _).mp hl)
  exact ⟨k, hk, congrArg KeyEntry.id he, congrArg KeyEntry.projectId he⟩

theorem verifies_iff (h : KeyInv cfg as db) {tick : Tick} {rawKey : Str} {p : Int} :
    (verifyApiKey cfg tick db rawKey).1.map (·.id) = some p ↔ ∃ i, Live as p i rawKey := by
  rw [verifyApiKey_fst, Option.map_map, Option.map_eq_some_iff]
  constructor
  · rintro ⟨⟨k, project⟩, hr, hp⟩
    have hid := (Table.find?_eq_some_iff.mp (resolveApiKey_eq_some.mp hr).2.2.2).2
    have hl := ((resolves_iff h).mp ⟨project, hr⟩).2
    exact ⟨k.id, (hid.symm.trans hp) ▸ hl⟩
  · rintro ⟨i, hl⟩
    obtain ⟨k, hk, rfl, rfl⟩ := hl.exists_row h
    obtain ⟨project, hr⟩ := (resolves_iff h).mpr ⟨hk, hl⟩
    exact ⟨_, hr, (Table.find?_eq_some_iff.mp (resolveApiKey_eq_some.mp hr).2.2.2).2⟩

/-- One raw key is one key. -/
theorem created_unique (h : KeyInv cfg as db) {p q i j : Int} {rawKey : Str}
    (hi : .created p i rawKey ∈ as) (hj : .created q j rawKey ∈ as) : p = q ∧ i = j := by
  obtain ⟨b, hb⟩ := h.tracks.created _ _ _ hi
  obtain ⟨b', hb'⟩ := h.tracks.created _ _ _ hj
  have same := List.inj_on_of_nodup_map h.tracks.hashes hb hb' rfl
  exact ⟨congrArg KeyEntry.projectId same, congrArg KeyEntry.id same⟩

/-- A revoked key is not live, whoever asks. -/
theorem not_live_of_revoked (h : KeyInv cfg as db) {p i : Int} {rawKey : Str}
    (hc : .created p i rawKey ∈ as) (hr : .revoked p i true ∈ as) (q j : Int) :
    ¬Live as q j rawKey := by
  intro hl
  obtain ⟨rfl, rfl⟩ := created_unique h hc hl.created
  obtain ⟨c, hm, hid, -, hrev⟩ := h.tracks.revoked _ _ hr
  have same := List.inj_on_of_nodup_map h.tracks.ids hm ((h.tracks.live _ _ _).mp hl) hid
  rw [same] at hrev
  cases hrev

/-- A project cannot revoke the key of another one. -/
theorem revoked_foreign (h : KeyInv cfg as db) {p q i : Int} {rawKey : Str}
    (hc : .created p i rawKey ∈ as) (hq : q ≠ p) {ok : Bool} {db' : Db}
    (hstep : KeyStep cfg db (.revoked q i ok) db') : ok = false ∧ db' = db := by
  cases hstep with
  | revoke hrev =>
      obtain ⟨⟨k, hk, hid, hp⟩, -⟩ := revokeApiKey_eq_some hrev
      obtain ⟨b, hb⟩ := h.tracks.created _ _ _ hc
      have he := entry_eq_of_mem_register hk hb hid.symm
      exact absurd (hp.symm.trans (congrArg KeyEntry.projectId he).symm) hq
  | notFound _ => exact ⟨rfl, rfl⟩

end Verify

/-- The keys follow the steps taken so far. -/
structure KeysFollow (cfg : Config) (as : List KeyEvent) (db : Db) : Prop where
  /-- A raw key verifies as the project it was created for, until that project revokes it. -/
  verifies : ∀ tick rawKey p, (verifyApiKey cfg tick db rawKey).1.map (·.id) = some p ↔
    ∃ i, Live as p i rawKey
  revoked : ∀ tick p i rawKey, .created p i rawKey ∈ as → .revoked p i true ∈ as →
    (verifyApiKey cfg tick db rawKey).1 = none
  foreign : ∀ p i rawKey, .created p i rawKey ∈ as → ∀ q ≠ p, ∀ ok db',
    KeyStep cfg db (.revoked q i ok) db' → ok = false ∧ db' = db
  /-- Verifying changes at most the stamp of the key it verifies. -/
  stamps : ∀ tick rawKey, ∃ stamp : ProjectAPIKey → Option Time,
    (verifyApiKey cfg tick db rawKey).2.apiKeys.rows =
      db.apiKeys.rows.map (fun k => { k with lastUsedAt := stamp k }) ∧
    (∀ k ∈ db.apiKeys.rows, stamp k ≠ k.lastUsedAt → Live as k.projectId k.id rawKey) ∧
    (verifyApiKey cfg tick db rawKey).2 =
      { db with apiKeys := (verifyApiKey cfg tick db rawKey).2.apiKeys }

/-- **The keys follow the steps taken so far**, in every run from a database without keys. -/
theorem keysFollow_run (hinj : Function.Injective cfg.sha256) {db₀ db : Db} {as : List KeyEvent}
    (h₀ : db₀.apiKeys = .empty) (h : Run (KeyStep cfg) db₀ as db) : KeysFollow cfg as db where
  verifies _ _ _ := verifies_iff (keyInv_run hinj h₀ h)
  revoked tick p i rawKey hc hr := by
    have inv := keyInv_run hinj h₀ h
    rw [← Option.map_eq_none_iff (f := (·.id)), Option.eq_none_iff_forall_ne_some]
    intro q hq
    obtain ⟨j, hl⟩ := (verifies_iff inv).mp hq
    exact not_live_of_revoked inv hc hr q j hl
  foreign _ _ _ hc _ hq _ _ hstep := revoked_foreign (keyInv_run hinj h₀ h) hc hq hstep
  stamps tick rawKey := by
    obtain ⟨stamp, hrows, hkept⟩ := @verifyApiKey_rows cfg tick db rawKey
    exact ⟨stamp, hrows,
      fun k hk hne => ((resolves_iff (keyInv_run hinj h₀ h)).mp (hkept k hk hne)).2,
      verifyApiKey_frame tick db rawKey⟩


/-- One project, and no key yet. -/
def keylessDb : Db :=
  { Db.empty with projects := Table.empty.insert ⟨0, 1, "p", "model", none, none, 0⟩ }

/-- A key is created, used, revoked and used once more. -/
theorem keysFollow_once : ∃ db, Run (KeyStep Config.bare) keylessDb
    [.created 1 1 "sk_live_".toList, .verified "sk_live_".toList (keylessDb.projects.find? 1),
      .revoked 1 1 true, .verified "sk_live_".toList none] db ∧
    KeysFollow Config.bare [.created 1 1 "sk_live_".toList,
      .verified "sk_live_".toList (keylessDb.projects.find? 1), .revoked 1 1 true,
      .verified "sk_live_".toList none] db := by
  let row : ProjectAPIKey := ⟨1, 1, "ci", "sk_live_", "sk_live_", 0, none, none⟩
  let db₁ : Db := { keylessDb with apiKeys := keylessDb.apiKeys.insert row }
  let db₂ : Db := (verifyApiKey Config.bare .zero db₁ "sk_live_").2
  let db₃ : Db := { db₂ with apiKeys := db₂.apiKeys.modify 1 ({ · with revokedAt := some 1 }) }
  have h₁ : KeyStep Config.bare keylessDb (.created 1 1 "sk_live_".toList) db₁ :=
    @KeyStep.create Config.bare keylessDb .zero ⟨1, 1, "p", "model", none, none, 0⟩ "ci" row _ _
      List.mem_cons_self rfl
  have h₂ : KeyStep Config.bare db₁
      (.verified "sk_live_".toList (keylessDb.projects.find? 1)) db₂ :=
    .verify db₁ .zero "sk_live_"
  have h₃ : KeyStep Config.bare db₂ (.revoked 1 1 true) db₃ :=
    @KeyStep.revoke Config.bare db₂ 1 1 1 _ rfl
  have h₄ : KeyStep Config.bare db₃ (.verified "sk_live_".toList none) db₃ :=
    .verify db₃ .zero "sk_live_"
  have run := Run.cons h₁ (.cons h₂ (.cons h₃ (.one h₄)))
  exact ⟨db₃, run, keysFollow_run (fun _ _ h => h) rfl run⟩

end SentinelAI

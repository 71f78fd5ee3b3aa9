import SentinelAI.Proxy.Api

/-!
# Properties — Retention

The purge of old events, at the start of the process and on demand.  Its cutoff is a date, which
Python computes or does not: a number of days that is too large raises, where every event would have
been kept.

* `daysBefore_eq_some_iff`: when there is a cutoff.
* `retained_iff`: the purge is total and exact exactly when it keeps everything or there is one.
* `not_retained_million`: a setting with which the process does not start.
-/

namespace SentinelAI
open Support

/-- `settings.events_retention_days if retention_days is None else retention_days` -/
def Settings.retention (settings : Settings) (retentionDays : Option Int) : Int :=
  retentionDays.getD settings.eventsRetentionDays

/-- `purge_expired` on the database: the number of rows deleted and what is left, or nothing where
it raises. -/
def Db.purgeExpired (db : Db) (settings : Settings) (retentionDays : Option Int) (now : Time) :
    Option (Int × Db) :=
  (SentinelAI.purgeExpired db.securityEvents (settings.retention retentionDays) now).map fun r =>
    (r.1, { db with securityEvents := r.2 })

/-- The event is older than a positive number of days. -/
def SecurityEvent.Expired (days : Int) (now : Time) (e : SecurityEvent) : Prop :=
  0 < days ∧ days * day < now - e.createdAt

instance (days : Int) (now : Time) (e : SecurityEvent) : Decidable (e.Expired days now) :=
  inferInstanceAs (Decidable (_ ∧ _))

/-- What a purge is to leave, and to return. -/
structure Purged (db : Db) (settings : Settings) (retentionDays : Option Int) (now : Time)
    (deleted : Int) (db' : Db) : Prop where
  rows : db'.securityEvents.rows =
    db.securityEvents.rows.filter fun e => ¬ e.Expired (settings.retention retentionDays) now
  deleted : deleted =
    (db.securityEvents.rows.filter fun e => e.Expired (settings.retention retentionDays) now).length
  others : db' = { db with securityEvents := db'.securityEvents }
  again : db'.purgeExpired settings retentionDays now = some (0, db')
  /-- A shorter retention deletes what this one does. -/
  shorter : ∀ days, 0 < days → days ≤ settings.retention retentionDays →
    ∃ deleted' db'', db.purgeExpired settings (some days) now = some (deleted', db'') ∧
      ∀ e ∈ db''.securityEvents.rows, e ∈ db'.securityEvents.rows

/-- **Retention is total and exact.** -/
def Retained (db : Db) (settings : Settings) (retentionDays : Option Int) (now : Time) : Prop :=
  ∃ deleted db', db.purgeExpired settings retentionDays now = some (deleted, db') ∧
    Purged db settings retentionDays now deleted db'

/-- There is a date that many days ago. -/
def HasCutoff (days : Int) (now : Time) : Prop :=
  days ≤ 999999999 ∧ datetimeMin ≤ now - days * day

/-! ### The cutoff -/

theorem daysBefore_eq_some_iff {days : Int} {now cutoff : Time} :
    daysBefore now days = some cutoff ↔ HasCutoff days now ∧ cutoff = now - days * day := by
  unfold daysBefore HasCutoff
  split
  · rename_i h
    refine iff_of_false (fun h => nomatch h) ?_
    rintro ⟨⟨h₁, h₂⟩, -⟩
    rcases h with h | h
    · exact absurd h (Int.not_lt.mpr h₁)
    · exact absurd h (Int.not_lt.mpr h₂)
  · rename_i h
    rw [not_or, Int.not_lt, Int.not_lt] at h
    rw [Option.some.injEq, eq_comm]
    exact (and_iff_right h).symm

/-- A shorter time has a cutoff where a longer one has. -/
theorem HasCutoff.shorter {days fewer : Int} {now : Time} (h : HasCutoff days now)
    (hf : fewer ≤ days) : HasCutoff fewer now := by
  obtain ⟨h₁, h₂⟩ := h
  have later : now - days * day ≤ now - fewer * day :=
    Int.sub_le_sub_left (Int.mul_le_mul_of_nonneg_right hf (by decide)) now
  exact ⟨Int.le_trans hf h₁, Int.le_trans h₂ later⟩

/-! ### The purge -/

section Purge

variable {db : Db} {settings : Settings} {retentionDays : Option Int} {now : Time}

/-- What is left of the events. -/
def Db.keeping (db : Db) (days : Int) (now : Time) : Db :=
  { db with securityEvents := db.securityEvents.deleteWhere fun e => e.Expired days now }

theorem rows_keeping (db : Db) (days : Int) (now : Time) :
    (db.keeping days now).securityEvents.rows =
      db.securityEvents.rows.filter fun e => ¬ e.Expired days now := by
  change db.securityEvents.rows.filter (fun e => !decide (e.Expired days now)) = _
  simp only [decide_not]

/-- **The purge**, where it does not raise. -/
theorem purgeExpired_eq (h : settings.retention retentionDays ≤ 0 ∨
    HasCutoff (settings.retention retentionDays) now) :
    db.purgeExpired settings retentionDays now =
      some (((db.securityEvents.rows.filter fun e =>
          e.Expired (settings.retention retentionDays) now).length : Int),
        db.keeping (settings.retention retentionDays) now) := by
  unfold Db.purgeExpired SentinelAI.purgeExpired Db.keeping
  generalize settings.retention retentionDays = days at h ⊢
  by_cases hd : days ≤ 0
  · -- nothing is expired
    have none_expired (e : SecurityEvent) : ¬ e.Expired days now := fun he => absurd he.1 (by omega)
    have kept : db.securityEvents.deleteWhere (fun e => e.Expired days now) = db.securityEvents :=
      Table.ext (List.filter_eq_self.mpr fun e _ => by simp [none_expired e])
    rw [if_pos hd, kept]
    simp [none_expired]
  · have cutoff := daysBefore_eq_some_iff.mpr ⟨h.resolve_left hd, rfl⟩
    have expired (e : SecurityEvent) :
        decide (e.createdAt < now - days * day) = decide (e.Expired days now) := by
      refine decide_eq_decide.mpr ?_
      rw [SecurityEvent.Expired, and_iff_right (Int.not_le.mp hd)]
      exact lt_sub_comm
    rw [if_neg hd, cutoff]
    simp only [Option.map_some, expired]

/-- It raises where there is no cutoff. -/
theorem purgeExpired_eq_none (h : 0 < settings.retention retentionDays)
    (hc : ¬ HasCutoff (settings.retention retentionDays) now) :
    db.purgeExpired settings retentionDays now = none := by
  have cutoff : daysBefore now (settings.retention retentionDays) = none := by
    cases hb : daysBefore now (settings.retention retentionDays) with
    | none => rfl
    | some cutoff => exact absurd (daysBefore_eq_some_iff.mp hb).1 hc
  rw [Db.purgeExpired, SentinelAI.purgeExpired, if_neg (Int.not_le.mpr h), cutoff]
  rfl

/-- Nothing that is left is expired. -/
theorem keeping_keeping (db : Db) (days : Int) (now : Time) :
    (db.keeping days now).keeping days now = db.keeping days now ∧
      ((db.keeping days now).securityEvents.rows.filter fun e => e.Expired days now) = [] := by
  constructor
  · have same : ((db.keeping days now).keeping days now).securityEvents =
        (db.keeping days now).securityEvents := by
      refine Table.ext ?_
      rw [rows_keeping, rows_keeping, List.filter_filter]
      simp only [Bool.and_self]
    exact congrArg (fun events => ({ db with securityEvents := events } : Db)) same
  · rw [rows_keeping, List.filter_filter, List.filter_eq_nil_iff]
    intro e _ h
    simp at h

/-- An event that is expired after a longer time is so after a shorter one. -/
theorem SecurityEvent.Expired.shorter {days fewer : Int} {e : SecurityEvent}
    (h : e.Expired days now) (hp : 0 < fewer) (hf : fewer ≤ days) : e.Expired fewer now := by
  obtain ⟨-, h⟩ := h
  have less : fewer * day ≤ days * day := Int.mul_le_mul_of_nonneg_right hf (by decide)
  exact ⟨hp, Int.lt_of_le_of_lt less h⟩

/-- **Retention.**  `purge_expired` returns, deletes exactly the events that are older than the
retention, and does what else is expected of it, exactly when the retention keeps everything or
there is a date that many days ago. -/
theorem retained_iff (db : Db) (settings : Settings) (retentionDays : Option Int) (now : Time) :
    Retained db settings retentionDays now ↔
      settings.retention retentionDays ≤ 0 ∨ HasCutoff (settings.retention retentionDays) now := by
  constructor
  · rintro ⟨deleted, db', hs, -⟩
    by_contra h
    obtain ⟨hp, hc⟩ := not_or.mp h
    rw [purgeExpired_eq_none (Int.not_le.mp hp) hc] at hs
    cases hs
  · intro h
    refine ⟨_, _, purgeExpired_eq h, rows_keeping db _ now, rfl, rfl, ?_, ?_⟩
    · obtain ⟨same, none_left⟩ := keeping_keeping db (settings.retention retentionDays) now
      rw [purgeExpired_eq h, same, none_left]
      rfl
    · intro fewer hp hf
      have cutoff : HasCutoff (settings.retention retentionDays) now :=
        h.resolve_left fun h => absurd hp (by omega)
      refine ⟨_, _, purgeExpired_eq (.inr (cutoff.shorter hf)), fun e he => ?_⟩
      rw [rows_keeping, List.mem_filter] at he ⊢
      refine ⟨he.1, ?_⟩
      rw [decide_eq_true_iff] at he ⊢
      exact fun hx => he.2 (hx.shorter hp hf)

end Purge

/-- A server that keeps its events for a million days, at the start of the year 2026. -/
def Config.keepsLong : Config :=
  { Config.bare with settings := { eventsRetentionDays := 1000000 } }

def Tick.newYear : Tick := { Tick.zero with now := 1767225600000000 }

/-- **A million days.**  The purge raises, and the process does not start. -/
theorem not_retained_million :
    Db.empty.purgeExpired Config.keepsLong.settings none Tick.newYear.now = none ∧
      restart Config.keepsLong .newYear .empty = none ∧
      ¬ Retained .empty Config.keepsLong.settings none Tick.newYear.now := by
  have raises : Db.empty.purgeExpired Config.keepsLong.settings none Tick.newYear.now = none :=
    purgeExpired_eq_none (by decide) fun h => absurd h.2 (by decide)
  refine ⟨raises, rfl, ?_⟩
  rintro ⟨_, _, h, -⟩
  rw [raises] at h
  cases h

end SentinelAI

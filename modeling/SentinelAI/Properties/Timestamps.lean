import SentinelAI.Proxy.Timestamps

/-!
# Properties — Timestamps

What is stored of a date-time denotes its instant, and stored texts compare as the instants do.  So
the queries may compare texts: they select, and order, by the instants.

* `stored_eq`: what is stored depends on the instant alone.
* `column_le_iff`, `columnDesc_eq`: the order of the texts.
* `inPeriodStored_eq`, `queryEventsStored_eq`, `findingsDeltaStored_eq`: the queries.
* `faithfulTimestamps`: all of it.
-/

namespace SentinelAI
open Support DateTime

/-! ### What is stored -/

/-- A date-time whose instant is in range is stored as the naive one that a clock of UTC shows. -/
theorem processBindParam_eq {d : DateTime} (h : InRange d.instant) :
    ∃ w, wallAt d.instant = some w ∧ processBindParam (some d) = some (some (naive w)) := by
  obtain ⟨w, hw⟩ := exists_wallAt.mpr h
  refine ⟨w, hw, ?_⟩
  obtain ⟨wall, offset, hoff⟩ := d
  cases offset with
  | none =>
      have same : wallAt (naive wall).instant = some wall := wallAt_eq_some_iff.mpr rfl
      obtain rfl : wall = w := Option.some.inj (same.symm.trans hw)
      rfl
  | some o =>
      change ((wallAt (⟨wall, some o, hoff⟩ : DateTime).instant).map utc).map
        (fun value => some (naive value.wall)) = _
      rw [hw]
      rfl

theorem stored_eq {d : DateTime} (h : InRange d.instant) : stored d = some (column d.instant) := by
  obtain ⟨w, hw, hb⟩ := processBindParam_eq h
  rw [stored, hb, column, hw]
  rfl

theorem column_lt_iff {s t : Time} (hs : InRange s) (ht : InRange t) :
    column s < column t ↔ s < t := by
  obtain ⟨v, hv⟩ := exists_wallAt.mpr hs
  obtain ⟨w, hw⟩ := exists_wallAt.mpr ht
  rw [column, hv, column, hw, ← wallAt_eq_some_iff.mp hv, ← wallAt_eq_some_iff.mp hw]
  simp only [Option.map_some, Option.getD_some, WallTime.text_lt_iff, instant, naive,
    Option.getD_none, sub_lt_sub_iff_right, Nat.cast_lt]

theorem column_le_iff {s t : Time} (hs : InRange s) (ht : InRange t) :
    column s ≤ column t ↔ s ≤ t := by
  rw [← not_lt, ← not_lt, column_lt_iff ht hs]

theorem column_inj {s t : Time} (hs : InRange s) (ht : InRange t) :
    column s = column t ↔ s = t := by
  rw [le_antisymm_iff, le_antisymm_iff, column_le_iff hs ht, column_le_iff ht hs]

/-! ### The queries -/

/-- The instants of the rows are in range, as they are where the rows could be stored. -/
def RowsInRange {ρ : Type} (at' : ρ → Time) (rows : List ρ) : Prop := ∀ r ∈ rows, InRange (at' r)

/-- A bound that is given has an instant in range. -/
def BoundInRange (bound : Option DateTime) : Prop := ∀ d ∈ bound, InRange d.instant

variable {ρ : Type} {at' : ρ → Time} {rows : List ρ} {since until' : Option DateTime}

theorem boundParam_eq {bound : Option DateTime} (h : BoundInRange bound) :
    boundParam bound = some (bound.map fun d => column d.instant) := by
  cases bound with
  | none => rfl
  | some d => rw [boundParam, stored_eq (h d rfl)]; rfl

theorem given_column {bound : Option DateTime} (h : BoundInRange bound) {p : Str → Bool}
    {q : Time → Bool} (hpq : ∀ t, InRange t → p (column t) = q t) :
    given (bound.map fun d => column d.instant) p = given (bound.map (·.instant)) q := by
  cases bound with
  | none => rfl
  | some d => exact hpq d.instant (h d rfl)

/-- **The rows of a period** are those whose instants are in it. -/
theorem inPeriodStored_eq (hr : RowsInRange at' rows) (hs : BoundInRange since)
    (hu : BoundInRange until') : inPeriodStored at' rows since until' =
      some (rows.filter fun r =>
        inPeriod (since.map (·.instant)) (until'.map (·.instant)) (at' r)) := by
  unfold inPeriodStored
  rw [boundParam_eq hs, boundParam_eq hu]
  refine congrArg some (List.filter_congr fun r hmem => ?_)
  have row := hr r hmem
  unfold inPeriod
  rw [given_column hs fun t ht => decide_eq_decide.mpr (column_le_iff ht row),
    given_column hu fun t ht => decide_eq_decide.mpr (column_le_iff row ht)]

/-- The order of the texts is that of the instants. -/
theorem columnDesc_eq (hr : RowsInRange at' rows) : columnDesc at' rows = orderDesc at' rows := by
  have same := List.map_insertionSort (fun r s => column (at' s) ≤ column (at' r))
    (fun r s => at' s ≤ at' r) id rows fun r h s h' => column_le_iff (hr s h') (hr r h)
  rwa [List.map_id, List.map_id] at same

theorem queryEventsStored_eq {events : List SecurityEvent} {q : EventQuery}
    (hr : RowsInRange (·.createdAt) events) (hs : BoundInRange since) (hu : BoundInRange until') :
    queryEventsStored events q since until' = some (queryEvents events
      { q with since := since.map (·.instant), until' := until'.map (·.instant) }) := by
  unfold queryEventsStored queryEvents
  rw [inPeriodStored_eq hr hs hu]
  dsimp only [Option.bind_eq_bind, Option.bind_some]
  rw [List.filter_filter, columnDesc_eq fun e he => hr e (List.mem_of_mem_filter he)]
  refine congrArg (fun l => some (limit q.limit (orderDesc _ l))) (List.filter_congr fun e _ => ?_)
  simp [EventQuery.keeps, inPeriod, given, Bool.and_comm, Bool.and_assoc, Bool.and_left_comm]

theorem latestRunStored_eq {rows : List TestRunResult} (hr : RowsInRange (·.executedAt) rows)
    (hs : BoundInRange since) (hu : BoundInRange until') :
    latestRunStored rows since until' =
      some (latestRun rows (since.map (·.instant)) (until'.map (·.instant))) := by
  unfold latestRunStored latestRun
  rw [inPeriodStored_eq hr hs hu]
  dsimp only [Option.bind_eq_bind, Option.bind_some]
  rw [columnDesc_eq fun e he => hr e (List.mem_of_mem_filter he)]
  rfl

theorem findingsDeltaStored_eq {findings : List Finding} {since : DateTime}
    (hc : RowsInRange (·.createdAt) findings) (hu : RowsInRange (·.updatedAt) findings)
    (hs : InRange since.instant) :
    findingsDeltaStored findings since = some (findingsDelta findings since.instant) := by
  unfold findingsDeltaStored
  rw [stored_eq hs]
  refine congrArg some ?_
  have created : findings.filter (fun f => column since.instant < column f.createdAt) =
      findings.filter fun f => since.instant < f.createdAt :=
    List.filter_congr fun f hf => decide_eq_decide.mpr (column_lt_iff hs (hc f hf))
  have resolved : findings.filter
      (fun f => f.status == .RESOLVED && column since.instant < column f.updatedAt) =
      findings.filter fun f => f.status == .RESOLVED && since.instant < f.updatedAt :=
    List.filter_congr fun f hf => by rw [decide_eq_decide.mpr (column_lt_iff hs (hu f hf))]
  rw [created, resolved]
  rfl

/-! ### Faithful and ordered -/

/-- What is stored of date-times whose instants are in range, and what queries select by it. -/
structure FaithfulTimestamps : Prop where
  /-- Loading what was stored gives an aware date-time in UTC of the same instant, and storing that
  again stores the same. -/
  roundTrip : ∀ d, InRange d.instant → ∃ kept loaded,
    processBindParam (some d) = some (some kept) ∧
    processResultValue (some kept) = some loaded ∧ loaded.offset = some 0 ∧
    loaded.instant = d.instant ∧ processBindParam (some loaded) = some (some kept)
  ordered : ∀ a b, InRange a.instant → InRange b.instant → ∃ kept kept',
    stored a = some kept ∧ stored b = some kept' ∧
    (kept < kept' ↔ a.instant < b.instant) ∧ (kept = kept' ↔ a.instant = b.instant)
  period : ∀ {ρ : Type} (at' : ρ → Time) rows since until', RowsInRange at' rows →
    BoundInRange since → BoundInRange until' → inPeriodStored at' rows since until' =
      some (rows.filter fun r =>
        (∀ d ∈ since, d.instant ≤ at' r) ∧ ∀ d ∈ until', at' r ≤ d.instant)
  events : ∀ events q since until', RowsInRange (·.createdAt) events → BoundInRange since →
    BoundInRange until' → queryEventsStored events q since until' = some (queryEvents events
      { q with since := since.map (·.instant), until' := until'.map (·.instant) })
  latest : ∀ rows since until', RowsInRange (·.executedAt) rows → BoundInRange since →
    BoundInRange until' → latestRunStored rows since until' =
      some (latestRun rows (since.map (·.instant)) (until'.map (·.instant)))
  delta : ∀ findings since, RowsInRange (·.createdAt) findings →
    RowsInRange (·.updatedAt) findings → InRange since.instant →
    findingsDeltaStored findings since = some (findingsDelta findings since.instant)

theorem inPeriod_iff {t : Time} : inPeriod (since.map (·.instant)) (until'.map (·.instant)) t = true
    ↔ (∀ d ∈ since, d.instant ≤ t) ∧ ∀ d ∈ until', t ≤ d.instant := by
  cases since <;> cases until' <;> simp [inPeriod, given]

/-- **Stored timestamps are faithful and ordered.** -/
theorem faithfulTimestamps : FaithfulTimestamps where
  roundTrip d h := by
    obtain ⟨w, hw, hb⟩ := processBindParam_eq h
    have same : (utc w).instant = d.instant := wallAt_eq_some_iff.mp hw
    have range : InRange (utc w).instant := by
      rw [same]
      exact h
    obtain ⟨w', hw', hb'⟩ := processBindParam_eq range
    rw [same] at hw'
    obtain rfl : w = w' := Option.some.inj (hw.symm.trans hw')
    exact ⟨naive w, utc w, hb, rfl, rfl, same, hb'⟩
  ordered a b ha hb :=
    ⟨_, _, stored_eq ha, stored_eq hb, column_lt_iff ha hb, column_inj ha hb⟩
  period at' rows since until' hr hs hu := by
    rw [inPeriodStored_eq hr hs hu]
    refine congrArg some (List.filter_congr fun r _ => ?_)
    rw [Bool.eq_iff_iff, inPeriod_iff, decide_eq_true_iff]
  events _ _ _ _ hr hs hu := queryEventsStored_eq hr hs hu
  latest _ _ _ hr hs hu := latestRunStored_eq hr hs hu
  delta _ _ hc hu hs := findingsDeltaStored_eq hc hu hs

end SentinelAI

import SentinelAI.Properties.Accounting
import SentinelAI.Support.Counting
import SentinelAI.Support.Runs
import Std.Data.String.ToInt

/-!
# Properties — Quota

Calls of `POST /v1/generate` that run at the same time, with the one counter of each user.  A call
takes three steps, each atomic: it is checked (owner, size, attack patterns), it is charged to the
counter of its user, and it calls the provider.  Between any two of them other calls take theirs,
and the database changes in any way.

* `run_serial`: a call whose steps nothing comes between does what `generate` does.
* `quotaKept_of_run`: however the calls interleave, each user gets as many provider calls as the cap
  and the user's own calls allow.
-/

namespace SentinelAI
open Support

/-- How far a call has come. -/
inductive QuotaPhase where
  | arrived
  /-- Refused for its owner, its size or an attack pattern. -/
  | rejected
  | passed
  /-- Over the quota. -/
  | denied
  | admitted
  /-- The provider's `generate` has been invoked. -/
  | contacted
deriving DecidableEq

/-- A call: who makes it, what is asked, and what its surroundings give. -/
structure QuotaCall where
  user : User
  req : GenerateRequest
  tick : Tick
  provider : Provider

variable {ι : Type*} [DecidableEq ι]

/-- The shared database and counters, and the phase of each call. -/
structure QuotaState (ι : Type*) where
  db : Db
  counts : SessionCounts
  phase : ι → QuotaPhase

/-- No call has been made. -/
def QuotaState.start (db : Db) : QuotaState ι := ⟨db, fun _ => 0, fun _ => .arrived⟩

def QuotaState.moved (s : QuotaState ι) (i : ι) (p : QuotaPhase) : ι → QuotaPhase :=
  Function.update s.phase i p

/-- The call is the owner's, not too large, and matches no attack pattern. -/
def Passes (cfg : Config) (req : GenerateRequest) (db : Db) (user : User) : Prop :=
  (∃ project, ownedProject db req.projectId user.id = .ok project) ∧
    (inboundText req).length ≤ MAX_INPUT_CHARS ∧ (inspection cfg req).injection.flagged = false

/-- The exit of a call over the quota. -/
def overQuota (cfg : Config) (tick : Tick) (req : GenerateRequest) (db : Db)
    (counts : SessionCounts) : Generated :=
  refuse cfg tick req 429 .rate_limit_exceeded "Per-session call limit reached." noUsage
    (inspection cfg req)
    (some (requestEvent req .request_blocked "low" "rate_limit" "Per-session call limit reached."
      [])) db counts none

inductive QuotaLabel (ι : Type*) where
  | check (i : ι)
  | charge (i : ι)
  | contact (i : ι)
  | other

/-- The call that takes the step. -/
def QuotaLabel.call : QuotaLabel ι → Option ι
  | .check i | .charge i | .contact i => some i
  | .other => none

/-- A step of one of the calls, or a change of the database. -/
inductive QuotaStep (cfg : Config) (calls : ι → QuotaCall) :
    QuotaState ι → QuotaLabel ι → QuotaState ι → Prop where
  | reject {s : QuotaState ι} {i : ι} (hp : s.phase i = .arrived)
      (h : ¬ Passes cfg (calls i).req s.db (calls i).user) :
      QuotaStep cfg calls s (.check i)
        ⟨(generate cfg (calls i).tick (calls i).req (calls i).provider s.db s.counts
            (calls i).user).db,
          (generate cfg (calls i).tick (calls i).req (calls i).provider s.db s.counts
            (calls i).user).counts, s.moved i .rejected⟩
  | pass {s : QuotaState ι} {i : ι} (hp : s.phase i = .arrived)
      (h : Passes cfg (calls i).req s.db (calls i).user) :
      QuotaStep cfg calls s (.check i)
        ⟨inspected cfg (calls i).tick (calls i).req s.db, s.counts, s.moved i .passed⟩
  | allow {s : QuotaState ι} {i : ι} {counts : SessionCounts} (hp : s.phase i = .passed)
      (h : checkAndIncrement s.counts (quotaKey (calls i).user) cfg.settings.rateLimitPerSession =
        (true, counts)) :
      QuotaStep cfg calls s (.charge i) ⟨s.db, counts, s.moved i .admitted⟩
  | deny {s : QuotaState ι} {i : ι} {counts : SessionCounts} (hp : s.phase i = .passed)
      (h : checkAndIncrement s.counts (quotaKey (calls i).user) cfg.settings.rateLimitPerSession =
        (false, counts)) :
      QuotaStep cfg calls s (.charge i)
        ⟨(overQuota cfg (calls i).tick (calls i).req s.db counts).db, counts, s.moved i .denied⟩
  | contact {s : QuotaState ι} {i : ι} (hp : s.phase i = .admitted) :
      QuotaStep cfg calls s (.contact i)
        ⟨(called cfg (calls i).tick (calls i).req (calls i).provider s.db s.counts).db,
          (called cfg (calls i).tick (calls i).req (calls i).provider s.db s.counts).counts,
          s.moved i .contacted⟩
  | other {s : QuotaState ι} (db : Db) : QuotaStep cfg calls s .other ⟨db, s.counts, s.phase⟩

/-! ### The steps of one call -/

section Serial

variable {cfg : Config} {tick : Tick} {req : GenerateRequest} {provider : Provider} {db : Db}
  {counts : SessionCounts} {user : User}

/-- What a refused call leaves: the counters as they were, and no provider called. -/
theorem generate_of_not_passes (h : ¬ Passes cfg req db user) :
    (generate cfg tick req provider db counts user).counts = counts ∧
      (generate cfg tick req provider db counts user).sent = none := by
  unfold generate
  cases hp : ownedProject db req.projectId user.id with
  | error e => exact ⟨rfl, rfl⟩
  | ok project =>
      unfold generateFor
      dsimp only
      by_cases hl : (inboundText req).length > MAX_INPUT_CHARS
      · rw [if_pos hl]
        exact ⟨rfl, rfl⟩
      · rw [if_neg hl]
        by_cases hf : (inspection cfg req).injection.flagged = true
        · rw [if_pos hf]
          exact ⟨rfl, rfl⟩
        · exact absurd ⟨⟨project, hp⟩, Nat.le_of_not_lt hl, Bool.not_eq_true _ ▸ hf⟩ h

/-- What becomes of a call that passes. -/
theorem generate_of_passes (h : Passes cfg req db user) :
    generate cfg tick req provider db counts user =
      if (checkAndIncrement counts (quotaKey user) cfg.settings.rateLimitPerSession).1 then
        called cfg tick req provider (inspected cfg tick req db)
          (checkAndIncrement counts (quotaKey user) cfg.settings.rateLimitPerSession).2
      else overQuota cfg tick req (inspected cfg tick req db)
        (checkAndIncrement counts (quotaKey user) cfg.settings.rateLimitPerSession).2 := by
  obtain ⟨⟨project, hp⟩, hl, hf⟩ := h
  rw [generate, hp]
  dsimp only
  rw [generateFor, if_neg (Nat.not_lt.mpr hl), if_neg (by rw [hf]; decide)]
  rfl

/-- A call that is admitted invokes the provider, and charges nothing more. -/
theorem called_frame : (called cfg tick req provider db counts).counts = counts ∧
    (called cfg tick req provider db counts).sent = some req.messages := by
  unfold called
  split
  · unfold answered
    dsimp only
    split
    · exact ⟨rfl, rfl⟩
    · split <;> exact ⟨rfl, rfl⟩
  · exact ⟨rfl, rfl⟩
  · exact ⟨rfl, rfl⟩

end Serial

variable {cfg : Config} {calls : ι → QuotaCall}

theorem QuotaState.moved_self (s : QuotaState ι) (i : ι) (p : QuotaPhase) : s.moved i p i = p :=
  Function.update_self _ _ _

theorem QuotaState.moved_ne (s : QuotaState ι) {i j : ι} (h : j ≠ i) (p : QuotaPhase) :
    s.moved i p j = s.phase j :=
  Function.update_of_ne h _ _

theorem QuotaState.moved_moved (s : QuotaState ι) {db : Db} {counts : SessionCounts} (i : ι)
    (p q : QuotaPhase) :
    (⟨db, counts, s.moved i p⟩ : QuotaState ι).moved i q = s.moved i q :=
  Function.update_idem _ _ _

/-- **A call on its own.**  Its steps, one after the other, leave what `generate` leaves; it is
rejected when it does not pass, and contacts the provider when `generate` does. -/
theorem run_serial (cfg : Config) (calls : ι → QuotaCall) {s : QuotaState ι} {i : ι}
    (hp : s.phase i = .arrived) :
    let g := generate cfg (calls i).tick (calls i).req (calls i).provider s.db s.counts
      (calls i).user
    ∃ labels phase, Run (QuotaStep cfg calls) s labels ⟨g.db, g.counts, s.moved i phase⟩ ∧
      (phase = .rejected ↔ ¬ Passes cfg (calls i).req s.db (calls i).user) ∧
      (phase = .contacted ↔ g.sent ≠ none) := by
  intro g
  by_cases h : Passes cfg (calls i).req s.db (calls i).user
  · have hg : g = _ := generate_of_passes h
    let s₁ : QuotaState ι :=
      ⟨inspected cfg (calls i).tick (calls i).req s.db, s.counts, s.moved i .passed⟩
    have pass : QuotaStep cfg calls s (.check i) s₁ := .pass hp h
    have hp₁ : s₁.phase i = .passed := s.moved_self i .passed
    cases hc : checkAndIncrement s.counts (quotaKey (calls i).user)
        cfg.settings.rateLimitPerSession with
    | mk allowed counts =>
        rw [hc] at hg
        cases allowed with
        | false =>
            have denied : QuotaStep cfg calls s₁ (.charge i) _ := .deny hp₁ hc
            rw [s.moved_moved] at denied
            rw [hg]
            exact ⟨_, .denied, .cons pass (.one denied), by simp [h], by simp [overQuota, refuse]⟩
        | true =>
            let s₂ : QuotaState ι := ⟨s₁.db, counts, s₁.moved i .admitted⟩
            have allow : QuotaStep cfg calls s₁ (.charge i) s₂ := .allow hp₁ hc
            have contact : QuotaStep cfg calls s₂ (.contact i) _ := .contact (s₁.moved_self i _)
            rw [s₁.moved_moved, s.moved_moved] at contact
            have hg : g = called cfg (calls i).tick (calls i).req (calls i).provider s₂.db
              s₂.counts := hg
            rw [hg]
            exact ⟨_, .contacted, .cons pass (.cons allow (.one contact)), by simp [h],
              by simp [called_frame.2]⟩
  · have hsent : g.sent = none := (generate_of_not_passes h).2
    exact ⟨_, .rejected, .one (.reject hp h), by simp [h], by simp [g, hsent]⟩

/-! ### One step -/

/-- **What a step can do.**  The counters change where a call is admitted, and nowhere else. -/
theorem quotaStep_cases {s s' : QuotaState ι} {a : QuotaLabel ι}
    (h : QuotaStep cfg calls s a s') :
    (a.call = none ∧ s'.phase = s.phase ∧ s'.counts = s.counts) ∨
    ∃ i p, a.call = some i ∧ s'.phase = s.moved i p ∧
      ((s.phase i = .arrived ∧ (p = .rejected ∨ p = .passed) ∧ s'.counts = s.counts) ∨
        (s.phase i = .passed ∧ p = .denied ∧ s'.counts = s.counts ∧
          cfg.settings.rateLimitPerSession ≤ s.counts (quotaKey (calls i).user)) ∨
        (s.phase i = .passed ∧ p = .admitted ∧
          s.counts (quotaKey (calls i).user) < cfg.settings.rateLimitPerSession ∧
          s'.counts = fun k =>
            if k = quotaKey (calls i).user then s.counts k + 1 else s.counts k) ∨
        (s.phase i = .admitted ∧ p = .contacted ∧ s'.counts = s.counts)) := by
  cases h with
  | @reject i hp h =>
      exact .inr ⟨i, .rejected, rfl, rfl, .inl ⟨hp, .inl rfl, (generate_of_not_passes h).1⟩⟩
  | @pass i hp h => exact .inr ⟨i, .passed, rfl, rfl, .inl ⟨hp, .inr rfl, rfl⟩⟩
  | @allow i counts hp h =>
      by_cases hlt : s.counts (quotaKey (calls i).user) < cfg.settings.rateLimitPerSession
      · rw [checkAndIncrement_of_lt hlt] at h
        exact .inr ⟨i, .admitted, rfl, rfl,
          .inr (.inr (.inl ⟨hp, rfl, hlt, (congrArg Prod.snd h).symm⟩))⟩
      · rw [checkAndIncrement_of_ge (Int.not_lt.mp hlt)] at h
        cases h
  | @deny i counts hp h =>
      by_cases hlt : s.counts (quotaKey (calls i).user) < cfg.settings.rateLimitPerSession
      · rw [checkAndIncrement_of_lt hlt] at h
        cases h
      · rw [checkAndIncrement_of_ge (Int.not_lt.mp hlt)] at h
        exact .inr ⟨i, .denied, rfl, rfl,
          .inr (.inl ⟨hp, rfl, (congrArg Prod.snd h).symm, Int.not_lt.mp hlt⟩)⟩
  | @contact i hp =>
      exact .inr ⟨i, .contacted, rfl, rfl, .inr (.inr (.inr ⟨hp, rfl, called_frame.1⟩))⟩
  | other db => exact .inl ⟨rfl, rfl, rfl⟩

theorem quotaKey_injective {u v : User} (h : quotaKey u = quotaKey v) : u.id = v.id :=
  Int.repr_injective (String.toList_injective (List.append_cancel_left h))

/-- A call that is rejected stays so: it contacts nobody. -/
theorem QuotaStep.rejected {s s' : QuotaState ι} {a : QuotaLabel ι}
    (h : QuotaStep cfg calls s a s') {i : ι} (hi : s.phase i = .rejected) :
    s'.phase i = .rejected := by
  rcases quotaStep_cases h with ⟨-, hphase, -⟩ | ⟨j, p, -, hphase, hcase⟩
  · rw [hphase, hi]
  · have hne : i ≠ j := by
      rintro rfl
      rw [hi] at hcase
      simp at hcase
    rw [hphase, s.moved_ne hne, hi]

theorem QuotaStep.free {s s' : QuotaState ι} {a : QuotaLabel ι} (h : QuotaStep cfg calls s a s')
    {i : ι} (ha : a.call = some i) (hi : s'.phase i = .rejected) : s'.counts = s.counts := by
  rcases quotaStep_cases h with ⟨-, -, hc⟩ | ⟨j, p, hj, hphase, hcase⟩
  · exact hc
  · rw [ha] at hj
    cases hj
    rw [hphase, s.moved_self] at hi
    subst hi
    rcases hcase with ⟨-, -, hc⟩ | ⟨-, hp, -⟩ | ⟨-, hp, -⟩ | ⟨-, hp, -⟩
    · exact hc
    all_goals cases hp

/-- A step of another user's call leaves what is left to a user. -/
theorem QuotaStep.counts_other {s s' : QuotaState ι} {a : QuotaLabel ι}
    (h : QuotaStep cfg calls s a s') {user : User}
    (ha : ∀ i, a.call = some i → (calls i).user.id ≠ user.id) :
    s'.counts (quotaKey user) = s.counts (quotaKey user) := by
  rcases quotaStep_cases h with ⟨-, -, hc⟩ | ⟨i, p, hi, -, hcase⟩
  · rw [hc]
  · rcases hcase with ⟨-, -, hc⟩ | ⟨-, -, hc, -⟩ | ⟨-, -, -, hc⟩ | ⟨-, -, hc⟩
    · rw [hc]
    · rw [hc]
    · rw [hc]
      exact if_neg fun hk => ha i hi (quotaKey_injective hk).symm
    · rw [hc]

/-! ### Counting the calls of a user -/

section Number

variable [Fintype ι]

/-- How many calls of the user are in one of the phases `ps`. -/
def QuotaState.number (s : QuotaState ι) (calls : ι → QuotaCall) (user : User)
    (ps : List QuotaPhase) : Nat :=
  (Finset.univ.filter fun i => (calls i).user.id = user.id ∧ s.phase i ∈ ps).card

omit [DecidableEq ι] in
theorem QuotaState.number_cons (s : QuotaState ι) (calls : ι → QuotaCall) (user : User)
    {p : QuotaPhase} {ps : List QuotaPhase} (hp : p ∉ ps) :
    s.number calls user (p :: ps) = s.number calls user [p] + s.number calls user ps := by
  classical
  unfold QuotaState.number
  rw [← Finset.card_union_of_disjoint, ← Finset.filter_or]
  · refine congrArg _ (Finset.filter_congr fun i _ => ?_)
    simp only [List.mem_cons, List.not_mem_nil, or_false, and_or_left]
  · refine Finset.disjoint_filter.mpr fun i _ h h' => hp ?_
    rw [List.mem_singleton.mp h.2] at h'
    exact h'.2

omit [DecidableEq ι] in
theorem number_eq_zero {s : QuotaState ι} {user : User} {p : QuotaPhase}
    (h : ∀ i, (calls i).user.id = user.id → s.phase i ≠ p) : s.number calls user [p] = 0 :=
  Finset.card_eq_zero.mpr (Finset.filter_eq_empty_iff.mpr fun i _ hi =>
    h i hi.1 (List.mem_singleton.mp hi.2))

/-- A call of the user moves from one phase to another. -/
theorem QuotaState.number_moved (s : QuotaState ι) (calls : ι → QuotaCall) (user : User)
    {s' : QuotaState ι} {i : ι} {p : QuotaPhase} (h : s'.phase = s.moved i p) (r : QuotaPhase) :
    s'.number calls user [r] +
        (if (calls i).user.id = user.id ∧ s.phase i = r then 1 else 0) =
      s.number calls user [r] + if (calls i).user.id = user.id ∧ p = r then 1 else 0 := by
  have moved := card_filter_update (fun j x => (calls j).user.id = user.id ∧ x ∈ [r]) s.phase i p
  simp only [List.mem_singleton] at moved
  simp only [QuotaState.number, h, QuotaState.moved, List.mem_singleton]
  exact moved

/-- The counter of a user is the number of the user's calls that were admitted, at most the cap,
and has reached it where a call was turned away. -/
structure Charged (cfg : Config) (calls : ι → QuotaCall) (user : User) (s : QuotaState ι) :
    Prop where
  admitted : s.counts (quotaKey user) =
    s.number calls user [.admitted] + s.number calls user [.contacted]
  capped : s.counts (quotaKey user) ≤ max cfg.settings.rateLimitPerSession 0
  denied : s.number calls user [.denied] ≠ 0 →
    cfg.settings.rateLimitPerSession ≤ s.counts (quotaKey user)

omit [DecidableEq ι] in
theorem charged_start (user : User) (db : Db) : Charged cfg calls user (.start db) := by
  have none_in (p : QuotaPhase) (hp : p ≠ .arrived) :
      (QuotaState.start db : QuotaState ι).number calls user [p] = 0 :=
    number_eq_zero fun i _ => hp.symm
  refine ⟨?_, Int.le_max_right _ _, fun h => absurd (none_in .denied (by decide)) h⟩
  rw [none_in .admitted (by decide), none_in .contacted (by decide)]
  rfl

/-- **Every step keeps the count.** -/
theorem Charged.step {user : User} {s s' : QuotaState ι} {a : QuotaLabel ι}
    (h : QuotaStep cfg calls s a s') (hs : Charged cfg calls user s) :
    Charged cfg calls user s' := by
  obtain ⟨admitted, capped, denied⟩ := hs
  rcases quotaStep_cases h with ⟨-, hphase, hc⟩ | ⟨i, p, -, hphase, hcase⟩
  · have same (r : QuotaPhase) : s'.number calls user [r] = s.number calls user [r] := by
      simp only [QuotaState.number, hphase]
    exact ⟨by rw [hc, same, same, admitted], by rw [hc]; exact capped,
      by rw [hc, same]; exact denied⟩
  · have hadmitted := s.number_moved calls user hphase .admitted
    have hcontacted := s.number_moved calls user hphase .contacted
    have hdenied := s.number_moved calls user hphase .denied
    rcases hcase with ⟨hp, rfl | rfl, hc⟩ | ⟨hp, rfl, hc, hge⟩ | ⟨hp, rfl, hlt, hc⟩ | ⟨hp, rfl, hc⟩
    all_goals
      simp only [hp, reduceCtorEq, and_false, and_true, if_false, Nat.add_zero]
        at hadmitted hcontacted hdenied
    · exact ⟨by rw [hc]; omega, by rw [hc]; exact capped, by rw [hc, hdenied]; exact denied⟩
    · exact ⟨by rw [hc]; omega, by rw [hc]; exact capped, by rw [hc, hdenied]; exact denied⟩
    · refine ⟨by rw [hc]; omega, by rw [hc]; exact capped, fun hn => ?_⟩
      rw [hc]
      by_cases hu : (calls i).user.id = user.id
      · rwa [quotaKey, ← hu]
      · rw [if_neg hu] at hdenied
        exact denied (by omega)
    · by_cases hu : (calls i).user.id = user.id
      · have hkey : quotaKey (calls i).user = quotaKey user := by rw [quotaKey, hu]; rfl
        rw [hkey] at hlt hc
        rw [if_pos hu] at hadmitted
        have hc : s'.counts (quotaKey user) = s.counts (quotaKey user) + 1 := by
          rw [hc]
          exact if_pos rfl
        exact ⟨by omega, by omega, fun hn => by have := denied (by omega); omega⟩
      · rw [if_neg hu] at hadmitted
        have hc : s'.counts (quotaKey user) = s.counts (quotaKey user) := by
          rw [hc]
          exact if_neg fun hk => hu (quotaKey_injective hk).symm
        exact ⟨by omega, by omega, fun hn => by have := denied (by omega); omega⟩
    · by_cases hu : (calls i).user.id = user.id
      · rw [if_pos hu] at hadmitted hcontacted
        exact ⟨by rw [hc]; omega, by rw [hc]; exact capped, by rw [hc, hdenied]; exact denied⟩
      · rw [if_neg hu] at hadmitted hcontacted
        exact ⟨by rw [hc]; omega, by rw [hc]; exact capped, by rw [hc, hdenied]; exact denied⟩

/-- No call of the user is between its check and its provider. -/
def Settled (calls : ι → QuotaCall) (user : User) (s : QuotaState ι) : Prop :=
  ∀ i, (calls i).user.id = user.id → s.phase i ≠ .passed ∧ s.phase i ≠ .admitted

/-- What the quota promises in a state. -/
structure QuotaKept (cfg : Config) (calls : ι → QuotaCall) (s : QuotaState ι) : Prop where
  /-- Each user's calls that are charged are admitted up to the cap. -/
  charged : ∀ user, s.number calls user [.admitted, .contacted] =
    min cfg.settings.rateLimitPerSession.toNat
      (s.number calls user [.denied, .admitted, .contacted])
  /-- Once they have all gone on, as many of the calls that passed the checks have invoked a
  provider as the cap allows. -/
  contacted : ∀ user, Settled calls user s → s.number calls user [.contacted] =
    min cfg.settings.rateLimitPerSession.toNat
      (s.number calls user [.passed, .denied, .admitted, .contacted])
  /-- A step that rejects a call consumes no quota. -/
  free : ∀ a s', QuotaStep cfg calls s a s' → ∀ i, a.call = some i → s'.phase i = .rejected →
    s'.counts = s.counts
  /-- A call that is rejected contacts no provider, whatever comes after. -/
  silent : ∀ i, s.phase i = .rejected → ∀ as s', Run (QuotaStep cfg calls) s as s' →
    s'.phase i = .rejected
  /-- Steps of other users' calls leave what is left to a user. -/
  others : ∀ user as s', Run.All (QuotaStep cfg calls)
      (fun _ a _ => ∀ i, a.call = some i → (calls i).user.id ≠ user.id) s as s' →
    remaining s'.counts (quotaKey user) cfg.settings.rateLimitPerSession =
      remaining s.counts (quotaKey user) cfg.settings.rateLimitPerSession
  /-- The next call of a key is allowed exactly when some are left. -/
  allowed : ∀ key, (checkAndIncrement s.counts key cfg.settings.rateLimitPerSession).1 = true ↔
    0 < remaining s.counts key cfg.settings.rateLimitPerSession

omit [DecidableEq ι] in
theorem Charged.number_eq {user : User} {s : QuotaState ι} (h : Charged cfg calls user s) :
    s.number calls user [.admitted, .contacted] =
      min cfg.settings.rateLimitPerSession.toNat
        (s.number calls user [.denied, .admitted, .contacted]) := by
  obtain ⟨admitted, capped, denied⟩ := h
  rw [s.number_cons calls user (by decide : .denied ∉ _),
    s.number_cons calls user (by decide : .admitted ∉ _)]
  omega

theorem charged_of_run {db : Db} {as : List (QuotaLabel ι)} {s : QuotaState ι}
    (h : Run (QuotaStep cfg calls) (.start db) as s) (user : User) : Charged cfg calls user s :=
  h.invariant (I := Charged cfg calls user) (fun _ _ _ => Charged.step) (charged_start user db)

/-- **The quota**, in every state that calls of any users reach in any order. -/
theorem quotaKept_of_run {db : Db} {as : List (QuotaLabel ι)} {s : QuotaState ι}
    (h : Run (QuotaStep cfg calls) (.start db) as s) : QuotaKept cfg calls s where
  charged user := (charged_of_run h user).number_eq
  contacted user settled := by
    have kept := (charged_of_run h user).number_eq
    have no_admitted := number_eq_zero fun i hi => (settled i hi).2
    have no_passed := number_eq_zero fun i hi => (settled i hi).1
    rw [s.number_cons calls user (by decide : .passed ∉ _), no_passed, Nat.zero_add, ← kept,
      s.number_cons calls user (by decide : .admitted ∉ _), no_admitted, Nat.zero_add]
  free _ _ step _ ha hi := step.free ha hi
  silent i hi _ _ run := run.invariant (I := fun t => t.phase i = .rejected)
    (fun _ _ _ step => step.rejected) hi
  others user _ s' run := by
    have same : s'.counts (quotaKey user) = s.counts (quotaKey user) :=
      run.invariant (I := fun t => t.counts (quotaKey user) = s.counts (quotaKey user))
        (fun _ _ _ step ha heq => (step.counts_other ha).trans heq) rfl
    simp only [remaining, same]
  allowed _ := checkAndIncrement_iff

end Number

/-! ### Two calls and a cap of one -/

/-- A server that allows each user one call. -/
def capOne : Config := { Config.bare with settings := { rateLimitPerSession := 1 } }

/-- The owner asks twice. -/
def askTwice : Bool → QuotaCall := fun _ => ⟨owner, askAs none, .zero, sayHi⟩

theorem passes_askAs : Passes capOne (askAs none) ownerDb owner :=
  ⟨⟨_, rfl⟩, by decide, by decide +kernel⟩

/-- Both calls are checked before either is charged: one contacts the provider, and the other is
over the quota. -/
theorem quotaKept_askTwice : ∃ as s, Run (QuotaStep capOne askTwice) (.start ownerDb) as s ∧
    QuotaKept capOne askTwice s ∧ s.number askTwice owner [.contacted] = 1 ∧
    s.number askTwice owner [.denied] = 1 := by
  let s₀ : QuotaState Bool := .start ownerDb
  let s₁ : QuotaState Bool := ⟨inspected capOne .zero (askAs none) ownerDb, s₀.counts,
    s₀.moved false .passed⟩
  let s₂ : QuotaState Bool := ⟨ownerDb, s₁.counts, s₁.phase⟩
  let s₃ : QuotaState Bool := ⟨inspected capOne .zero (askAs none) ownerDb, s₂.counts,
    s₂.moved true .passed⟩
  let s₄ : QuotaState Bool := ⟨s₃.db, fun k => if k = quotaKey owner then s₃.counts k + 1 else
    s₃.counts k, s₃.moved false .admitted⟩
  let s₅ : QuotaState Bool := ⟨(overQuota capOne .zero (askAs none) s₄.db s₄.counts).db, s₄.counts,
    s₄.moved true .denied⟩
  let s₆ : QuotaState Bool := ⟨(called capOne .zero (askAs none) sayHi s₅.db s₅.counts).db,
    (called capOne .zero (askAs none) sayHi s₅.db s₅.counts).counts, s₅.moved false .contacted⟩
  have h₁ : QuotaStep capOne askTwice s₀ (.check false) s₁ := .pass rfl passes_askAs
  have h₂ : QuotaStep capOne askTwice s₁ .other s₂ := .other ownerDb
  have h₃ : QuotaStep capOne askTwice s₂ (.check true) s₃ := .pass rfl passes_askAs
  have h₄ : QuotaStep capOne askTwice s₃ (.charge false) s₄ :=
    .allow rfl (checkAndIncrement_of_lt (by decide))
  have h₅ : QuotaStep capOne askTwice s₄ (.charge true) s₅ :=
    .deny rfl (checkAndIncrement_of_ge (by decide))
  have h₆ : QuotaStep capOne askTwice s₅ (.contact false) s₆ := .contact rfl
  have run := Run.cons h₁ (.cons h₂ (.cons h₃ (.cons h₄ (.cons h₅ (.one h₆)))))
  exact ⟨_, _, run, quotaKept_of_run run, by decide, by decide⟩

end SentinelAI

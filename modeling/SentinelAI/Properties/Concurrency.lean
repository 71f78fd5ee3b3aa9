import Mathlib.Logic.Function.Basic
import SentinelAI.Support.Runs
import SentinelAI.Proxy.AgentActions

/-!
# Properties — Concurrency

Approvals and rejections that run at the same time.  Each request takes two steps on the shared
table, each atomic in the database: it reads the row and checks it, and later it updates the row by
its key and commits.  The update does not look at the row again, so a request can commit to a row
that another one has resolved in between.

* `resolved_twice`: a run in which both a rejection and an approval of one row succeed.
* `resolved_once`: where every commit finds its row still pending, at most one request succeeds on
  a row and no later step changes what it left.
* `resolved_again`: a commit that finds its row resolved is the second to succeed on it.
-/

namespace SentinelAI
open Support

/-- A request to `…/approve` or `…/reject`. -/
structure ApprovalRequest where
  logId : Int
  approver : Str
  approve : Bool

/-- How far a request has come.  `checked` carries the approver's name as the read step made it. -/
inductive ApprovalPhase where
  | waiting
  | checked (who : Str)
  | refused (e : ApprovalError)
  | succeeded

variable {ι : Type*} [DecidableEq ι]

/-- The shared table, and the phase of each request. -/
structure ApprovalState (ι : Type*) where
  table : Table AgentActionLog
  phase : ι → ApprovalPhase

/-- The state in which no request has read anything. -/
def ApprovalState.start (t : Table AgentActionLog) : ApprovalState ι := ⟨t, fun _ => .waiting⟩

def ApprovalState.moved (s : ApprovalState ι) (i : ι) (p : ApprovalPhase) : ι → ApprovalPhase :=
  Function.update s.phase i p

inductive ApprovalLabel (ι : Type*) where
  | read (i : ι)
  | commit (i : ι) (now : Time)

/-- A step of one of the requests `req`. -/
inductive ApprovalStep (U : Ucd) (req : ι → ApprovalRequest) :
    ApprovalState ι → ApprovalLabel ι → ApprovalState ι → Prop where
  | refuse {s : ApprovalState ι} {i : ι} {e : ApprovalError} (hw : s.phase i = .waiting)
      (hc : checkApproval U s.table (req i).logId (req i).approver = .error e) :
      ApprovalStep U req s (.read i) ⟨s.table, s.moved i (.refused e)⟩
  | check {s : ApprovalState ι} {i : ι} {who : Str} (hw : s.phase i = .waiting)
      (hc : checkApproval U s.table (req i).logId (req i).approver = .ok who) :
      ApprovalStep U req s (.read i) ⟨s.table, s.moved i (.checked who)⟩
  | commit {s : ApprovalState ι} {i : ι} {who : Str} {now : Time} (hp : s.phase i = .checked who) :
      ApprovalStep U req s (.commit i now)
        ⟨commitApproval s.table (req i).logId who (req i).approve now, s.moved i .succeeded⟩

variable (U : Ucd) (req : ι → ApprovalRequest)

/-- At most one request has succeeded on each row. -/
def AtMostOnce (s : ApprovalState ι) : Prop :=
  ∀ i j, s.phase i = .succeeded → s.phase j = .succeeded → (req i).logId = (req j).logId → i = j

omit [DecidableEq ι] in
/-- What was resolved in `s` has the same outcome and approver in `s'`. -/
def OutcomesKept (s s' : ApprovalState ι) : Prop :=
  ∀ row ∈ s.table.rows, row.executionResult ≠ .pending_approval →
    ∃ row' ∈ s'.table.rows, row'.id = row.id ∧ row'.executionResult = row.executionResult ∧
      row'.approvedBy = row.approvedBy

/-- A commit, where the step is one, finds its row still pending. -/
def FindsPending (s : ApprovalState ι) (a : ApprovalLabel ι) (_ : ApprovalState ι) : Prop :=
  ∀ i now, a = .commit i now → ∃ row, s.table.find? (req i).logId = some row ∧
    row.executionResult = .pending_approval

/-- Where a request has succeeded its row is no longer pending. -/
def SucceededResolved (s : ApprovalState ι) : Prop :=
  ∀ i, s.phase i = .succeeded → ∃ row, s.table.find? (req i).logId = some row ∧
    row.executionResult.Resolved

/-! ### Two requests on one row -/

/-- One action, which waits for its approval. -/
def pendingTable : Table AgentActionLog :=
  Table.empty.insert ⟨1, none, "bot", "tickets", "delete", none, .REQUIRE_APPROVAL,
    "Matched REQUIRE_APPROVAL rule for tickets.delete.", .pending_approval, none, 0, 0⟩

/-- Ann approves it, and Bob rejects it. -/
def twoRequests (approve : Bool) : ApprovalRequest := ⟨1, if approve then "ann" else "bob", approve⟩

theorem check_pendingTable (approve : Bool) :
    checkApproval Ucd.ascii pendingTable (twoRequests approve).logId
      (twoRequests approve).approver = .ok (twoRequests approve).approver := by
  cases approve <;> rfl

/-- Both requests read the row, Bob commits, and then Ann does: both succeed, and the rejection
becomes an approval. -/
theorem resolved_twice :
    ¬ ∀ (t : Table AgentActionLog) (req : Bool → ApprovalRequest)
        (as bs : List (ApprovalLabel Bool)) (s s' : ApprovalState Bool),
      Run (ApprovalStep Ucd.ascii req) (.start t) as s → Run (ApprovalStep Ucd.ascii req) s bs s' →
        AtMostOnce req s' ∧ OutcomesKept s s' := by
  intro h
  -- Bob is `false`, and Ann is `true`
  let s₀ : ApprovalState Bool := .start pendingTable
  let s₁ : ApprovalState Bool := ⟨pendingTable, s₀.moved false (.checked "bob")⟩
  let s₂ : ApprovalState Bool := ⟨pendingTable, s₁.moved true (.checked "ann")⟩
  let s₃ : ApprovalState Bool :=
    ⟨commitApproval pendingTable 1 "bob" false 5, s₂.moved false .succeeded⟩
  let s₄ : ApprovalState Bool :=
    ⟨commitApproval s₃.table 1 "ann" true 6, s₃.moved true .succeeded⟩
  have h₁ : ApprovalStep Ucd.ascii twoRequests s₀ (.read false) s₁ :=
    .check rfl (check_pendingTable false)
  have h₂ : ApprovalStep Ucd.ascii twoRequests s₁ (.read true) s₂ :=
    .check rfl (check_pendingTable true)
  have h₃ : ApprovalStep Ucd.ascii twoRequests s₂ (.commit false 5) s₃ := .commit rfl
  have h₄ : ApprovalStep Ucd.ascii twoRequests s₃ (.commit true 6) s₄ := .commit rfl
  obtain ⟨once, -⟩ := h _ _ _ _ _ _ (.cons h₁ (.cons h₂ (.one h₃))) (.one h₄)
  exact absurd (once false true rfl rfl rfl) (by decide)

variable {U req}

/-! ### One step -/

theorem ApprovalState.moved_self (s : ApprovalState ι) (i : ι) (p : ApprovalPhase) :
    s.moved i p i = p :=
  Function.update_self _ _ _

theorem ApprovalState.moved_ne (s : ApprovalState ι) {i j : ι} (h : j ≠ i) (p : ApprovalPhase) :
    s.moved i p j = s.phase j :=
  Function.update_of_ne h _ _

/-- A request that has succeeded after a move to another phase had succeeded before. -/
theorem ApprovalState.succeeded_of_moved {s : ApprovalState ι} {i j : ι} {p : ApprovalPhase}
    (hp : p ≠ .succeeded) (h : s.moved i p j = .succeeded) : s.phase j = .succeeded := by
  by_cases hj : j = i
  · rw [hj, s.moved_self] at h
    exact absurd h hp
  · rwa [s.moved_ne hj] at h

/-- A commit leaves the rows of other keys. -/
theorem find?_commitApproval_ne {t : Table AgentActionLog} {logId i : Int} {who : Str}
    {approve : Bool} {now : Time} {row : AgentActionLog} (hf : t.find? i = some row)
    (hi : i ≠ logId) : (commitApproval t logId who approve now).find? i = some row := by
  obtain ⟨hr, hk⟩ := Table.find?_eq_some_iff.mp hf
  exact Table.find?_eq_some_iff.mpr ⟨mem_commitApproval.mpr (.inl ⟨hr, fun h => hi (hk ▸ h)⟩), hk⟩

theorem find?_commitApproval {t : Table AgentActionLog} {logId : Int} {who : Str} {approve : Bool}
    {now : Time} {row : AgentActionLog} (hf : t.find? logId = some row) :
    (commitApproval t logId who approve now).find? logId = some (row.resolved who approve now) := by
  obtain ⟨hr, hk⟩ := Table.find?_eq_some_iff.mp hf
  exact Table.find?_eq_some_iff.mpr ⟨mem_commitApproval.mpr (.inr ⟨row, hr, hk, rfl⟩), hk⟩

theorem succeededResolved_step {s s' : ApprovalState ι} {a : ApprovalLabel ι}
    (h : ApprovalStep U req s a s') (hC : FindsPending req s a s')
    (hs : SucceededResolved req s) : SucceededResolved req s' := by
  intro j hj
  cases h with
  | refuse hw hc => exact hs j (s.succeeded_of_moved (by simp) hj)
  | check hw hc => exact hs j (s.succeeded_of_moved (by simp) hj)
  | @commit i who now hp =>
      obtain ⟨row, hf, -⟩ := hC i now rfl
      by_cases hji : (req j).logId = (req i).logId
      · rw [hji]
        exact ⟨_, find?_commitApproval hf, resolved_resolution _⟩
      · have hne : j ≠ i := fun h => hji (h ▸ rfl)
        obtain ⟨row', hf', hr'⟩ := hs j ((s.moved_ne hne _).symm.trans hj)
        exact ⟨row', find?_commitApproval_ne hf' hji, hr'⟩

theorem atMostOnce_step {s s' : ApprovalState ι} {a : ApprovalLabel ι}
    (h : ApprovalStep U req s a s') (hC : FindsPending req s a s')
    (hs : SucceededResolved req s) (ho : AtMostOnce req s) : AtMostOnce req s' := by
  intro j k hj hk hjk
  cases h with
  | refuse hw hc =>
      exact ho j k (s.succeeded_of_moved (by simp) hj) (s.succeeded_of_moved (by simp) hk) hjk
  | check hw hc =>
      exact ho j k (s.succeeded_of_moved (by simp) hj) (s.succeeded_of_moved (by simp) hk) hjk
  | @commit i who now hp =>
      obtain ⟨row, hf, hpend⟩ := hC i now rfl
      -- no request on the row of `i` has succeeded before
      have fresh : ∀ l, s.phase l = .succeeded → (req l).logId ≠ (req i).logId := by
        intro l hl heq
        obtain ⟨row', hf', hr'⟩ := hs l hl
        rw [heq, hf] at hf'
        cases hf'
        exact hr'.ne_pending hpend
      by_cases hji : j = i <;> by_cases hki : k = i
      · rw [hji, hki]
      · exact absurd (hji ▸ hjk.symm) (fresh k ((s.moved_ne hki _).symm.trans hk))
      · exact absurd (hki ▸ hjk) (fresh j ((s.moved_ne hji _).symm.trans hj))
      · exact ho j k ((s.moved_ne hji _).symm.trans hj) ((s.moved_ne hki _).symm.trans hk) hjk

/-- A step that finds its row pending keeps the rows that are not. -/
theorem mem_of_step {s s' : ApprovalState ι} {a : ApprovalLabel ι} (h : ApprovalStep U req s a s')
    (hC : FindsPending req s a s') {row : AgentActionLog} (hr : row ∈ s.table.rows)
    (hp : row.executionResult ≠ .pending_approval) : row ∈ s'.table.rows := by
  cases h with
  | refuse hw hc => exact hr
  | check hw hc => exact hr
  | @commit i who now hp' =>
      obtain ⟨row', hf, hpend⟩ := hC i now rfl
      refine mem_commitApproval.mpr (.inl ⟨hr, fun hk => hp ?_⟩)
      obtain ⟨hr', hk'⟩ := Table.find?_eq_some_iff.mp hf
      rw [Table.eq_of_key hr hr' (hk.trans hk'.symm)]
      exact hpend

/-! ### Runs -/

/-- **Resolved at most once, when every commit finds its row pending.**  Along a run of requests
whose commits all do, at most one request succeeds on a row, and what a row has become by some
state it is in every later one. -/
theorem resolved_once {t : Table AgentActionLog} {as bs : List (ApprovalLabel ι)}
    {s s' : ApprovalState ι}
    (h : Run.All (ApprovalStep U req) (FindsPending req) (.start t) as s)
    (h' : Run.All (ApprovalStep U req) (FindsPending req) s bs s') :
    AtMostOnce req s' ∧ OutcomesKept s s' := by
  constructor
  · have start : SucceededResolved req (.start t) ∧ AtMostOnce req (.start t) :=
      ⟨fun _ h => (nomatch h), fun _ _ h => (nomatch h)⟩
    have inv : ∀ s a s', ApprovalStep U req s a s' → FindsPending req s a s' →
        SucceededResolved req s ∧ AtMostOnce req s → SucceededResolved req s' ∧ AtMostOnce req s' :=
      fun _ _ _ hs hC hI =>
        ⟨succeededResolved_step hs hC hI.1, atMostOnce_step hs hC hI.1 hI.2⟩
    exact (h'.invariant inv (h.invariant inv start)).2
  · intro row hr hp
    have kept : row ∈ s'.table.rows :=
      h'.invariant (I := fun s => row ∈ s.table.rows)
        (fun _ _ _ hs hC hr => mem_of_step hs hC hr hp) hr
    exact ⟨row, kept, rfl, rfl, rfl⟩

/-- Ann's commit finds the row pending, and Bob is refused. -/
theorem resolved_once_ann :
    let s : ApprovalState Bool := ⟨commitApproval pendingTable 1 "ann" true 5,
      fun b => if b then .succeeded else .waiting⟩
    let s' : ApprovalState Bool := ⟨s.table, s.moved false (.refused ⟨409, .not_pending,
      "Action is 'approved_not_executed', not pending approval."⟩)⟩
    s'.phase true = .succeeded ∧ AtMostOnce twoRequests s' ∧ OutcomesKept s s' := by
  intro s s'
  let s₀ : ApprovalState Bool := .start pendingTable
  let s₁ : ApprovalState Bool := ⟨pendingTable, s₀.moved true (.checked "ann")⟩
  have hs : s = ⟨commitApproval pendingTable 1 "ann" true 5, s₁.moved true .succeeded⟩ :=
    congrArg (ApprovalState.mk _) (funext fun b => by cases b <;> rfl)
  have h₁ : ApprovalStep Ucd.ascii twoRequests s₀ (.read true) s₁ :=
    .check rfl (check_pendingTable true)
  have h₂ : ApprovalStep Ucd.ascii twoRequests s₁ (.commit true 5) s := hs ▸ .commit rfl
  have h₃ : ApprovalStep Ucd.ascii twoRequests s (.read false) s' := .refuse rfl rfl
  have pending : FindsPending twoRequests s₁ (.commit true 5) s := by
    rintro _ _ ⟨⟩
    exact ⟨_, rfl, rfl⟩
  exact ⟨rfl, resolved_once (.cons h₁ (fun _ _ h => (nomatch h)) (.cons h₂ pending (.nil _)))
    (.cons h₃ (fun _ _ h => (nomatch h)) (.nil _))⟩

/-- What a request has read, or found there, was pending when it read it. -/
def CheckedRow (req : ι → ApprovalRequest) (s : ApprovalState ι) : Prop :=
  ∀ i who, s.phase i = .checked who → ∃ row, s.table.find? (req i).logId = some row ∧
    (row.executionResult = .pending_approval ∨
      ∃ j, s.phase j = .succeeded ∧ (req j).logId = (req i).logId)

theorem checkedRow_step {s s' : ApprovalState ι} {a : ApprovalLabel ι}
    (h : ApprovalStep U req s a s') (hs : CheckedRow req s) : CheckedRow req s' := by
  intro j who' hj
  cases h with
  | @refuse i e hw hc =>
      by_cases hji : j = i
      · cases (s.moved_self i _).symm.trans (hji ▸ hj)
      · obtain ⟨row, hf, hp | ⟨k, hk, hkj⟩⟩ := hs j who' ((s.moved_ne hji _).symm.trans hj)
        · exact ⟨row, hf, .inl hp⟩
        · have hki : k ≠ i := by rintro rfl; rw [hw] at hk; cases hk
          exact ⟨row, hf, .inr ⟨k, (s.moved_ne hki _).trans hk, hkj⟩⟩
  | @check i who hw hc =>
      by_cases hji : j = i
      · obtain ⟨row, hf, hp, -⟩ := checkApproval_eq_ok.mp hc
        exact ⟨row, hji ▸ hf, .inl hp⟩
      · obtain ⟨row, hf, hp | ⟨k, hk, hkj⟩⟩ := hs j who' ((s.moved_ne hji _).symm.trans hj)
        · exact ⟨row, hf, .inl hp⟩
        · have hki : k ≠ i := by rintro rfl; rw [hw] at hk; cases hk
          exact ⟨row, hf, .inr ⟨k, (s.moved_ne hki _).trans hk, hkj⟩⟩
  | @commit i who now hp =>
      by_cases hji : j = i
      · cases (s.moved_self i _).symm.trans (hji ▸ hj)
      · obtain ⟨row, hf, h⟩ := hs j who' ((s.moved_ne hji _).symm.trans hj)
        -- a commit to the row of `j` is a success on it; any other leaves the row
        by_cases hl : (req j).logId = (req i).logId
        · rw [hl] at hf ⊢
          exact ⟨_, find?_commitApproval hf, .inr ⟨i, s.moved_self _ _, rfl⟩⟩
        · refine ⟨row, find?_commitApproval_ne hf hl, h.imp_right ?_⟩
          rintro ⟨k, hk, hkj⟩
          have hki : k ≠ i := by rintro rfl; exact hl hkj.symm
          exact ⟨k, (s.moved_ne hki _).trans hk, hkj⟩

/-- **The condition is exact.**  A commit that finds its row resolved comes after another request's
success on that row, and succeeds too. -/
theorem resolved_again {t : Table AgentActionLog} {as : List (ApprovalLabel ι)}
    {s s' : ApprovalState ι} {a : ApprovalLabel ι} (h : Run (ApprovalStep U req) (.start t) as s)
    (ha : ApprovalStep U req s a s') (hC : ¬ FindsPending req s a s') : ¬ AtMostOnce req s' := by
  have inv : CheckedRow req s :=
    h.invariant (I := CheckedRow req) (fun _ _ _ hs => checkedRow_step hs) fun _ _ h => (nomatch h)
  cases ha with
  | refuse hw hc => exact absurd (fun _ _ h => (nomatch h)) hC
  | check hw hc => exact absurd (fun _ _ h => (nomatch h)) hC
  | @commit i who now hp =>
      obtain ⟨row, hf, hpend | ⟨j, hj, hji⟩⟩ := inv i who hp
      · refine absurd ?_ hC
        rintro _ _ ⟨⟩
        exact ⟨row, hf, hpend⟩
      · have hne : j ≠ i := by rintro rfl; rw [hp] at hj; cases hj
        intro ho
        exact hne (ho j i ((s.moved_ne hne _).trans hj) (s.moved_self _ _) hji)

end SentinelAI

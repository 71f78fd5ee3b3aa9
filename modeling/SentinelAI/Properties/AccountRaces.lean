import SentinelAI.Properties.AuditTrail

/-!
# Properties — AccountRaces

Sign-ups and new projects that are served at the same time.  A sign-up looks for its email, stores
the user, and then stores the user's workspace; a new project looks for the workspace of its user,
stores one where there is none, and then stores the project.  Every one of these steps is a
transaction of its own, other requests take theirs between any two of them, and a request may stop
at any of them.

* `run_signup`, `run_createProject`: a request that nothing comes between does what its function
  does.
* `accountRaces_run`: in any order of the steps, accounts keep apart and projects belong to who has
  created them.
* `projectLists_run`: every user has one workspace, and is listed every project, as long as no
  workspace is stored for a user who has one.
* `listProjects_run`: so it is where requests are served one after the other.
-/

namespace SentinelAI
open Support

/-! ### Requests on accounts and projects -/

inductive AccountRequest where
  /-- With the hash of the password. -/
  | signup (email passwordHash : Str)
  | createProject (userId : Int) (body : ProjectCreate)

/-- How far a request has come, with what it has read or stored. -/
inductive AccountPhase where
  | waiting
  /-- No account has the email. -/
  | free
  | joined (user : User)
  | signedUp (user : User)
  | taken
  /-- The unique column refused the row. -/
  | collided
  /-- The user has no workspace. -/
  | homeless
  | located (workspaceId : Int)
  | made (project : Project)
  /-- A write has failed, or the process has. -/
  | stopped

/-- The request has not been answered. -/
def AccountPhase.Open : AccountPhase → Prop
  | .waiting | .free | .joined _ | .homeless | .located _ => True
  | _ => False

variable {ι : Type*} [DecidableEq ι]

/-- The shared database, and the phase of each request. -/
structure AccountState (ι : Type*) where
  db : Db
  phase : ι → AccountPhase

/-- The state in which no request has read anything. -/
def AccountState.start (db : Db) : AccountState ι := ⟨db, fun _ => .waiting⟩

def AccountState.moved (s : AccountState ι) (i : ι) (p : AccountPhase) : ι → AccountPhase :=
  Function.update s.phase i p

inductive AccountLabel (ι : Type*) where
  | check (i : ι)
  | join (i : ι)
  | settle (i : ι)
  | locate (i : ι)
  | house (i : ι)
  | make (i : ι)
  | stop (i : ι)
  /-- A project is updated, or something else is changed. -/
  | other

/-- The user has an email that another one would take. -/
def Taken (db : Db) (email : Str) : Prop := ∃ user ∈ db.users.rows, user.email = email

/-- The database with a workspace for the user. -/
def housed (db : Db) (userId : Int) (now : Time) : Db :=
  { db with workspaces := createWorkspaceForUser db.workspaces userId now }

inductive AccountStep (req : ι → AccountRequest) :
    AccountState ι → AccountLabel ι → AccountState ι → Prop where
  | taken {s : AccountState ι} {i : ι} {email passwordHash : Str} (hp : s.phase i = .waiting)
      (hr : req i = .signup email passwordHash) (h : Taken s.db email) :
      AccountStep req s (.check i) ⟨s.db, s.moved i .taken⟩
  | free {s : AccountState ι} {i : ι} {email passwordHash : Str} (hp : s.phase i = .waiting)
      (hr : req i = .signup email passwordHash) (h : ¬ Taken s.db email) :
      AccountStep req s (.check i) ⟨s.db, s.moved i .free⟩
  | collide {s : AccountState ι} {i : ι} {email passwordHash : Str} (hp : s.phase i = .free)
      (hr : req i = .signup email passwordHash) (h : Taken s.db email) :
      AccountStep req s (.join i) ⟨s.db, s.moved i .collided⟩
  | join {s : AccountState ι} {i : ι} {email passwordHash : Str} (hp : s.phase i = .free)
      (hr : req i = .signup email passwordHash) (h : ¬ Taken s.db email) (now : Time) :
      AccountStep req s (.join i)
        ⟨{ s.db with users := s.db.users.insert ⟨0, email, passwordHash, now⟩ },
          s.moved i (.joined (s.db.users.stored ⟨0, email, passwordHash, now⟩))⟩
  | settle {s : AccountState ι} {i : ι} {user : User} (hp : s.phase i = .joined user)
      (now : Time) :
      AccountStep req s (.settle i) ⟨housed s.db user.id now, s.moved i (.signedUp user)⟩
  | locate {s : AccountState ι} {i : ι} {userId : Int} {body : ProjectCreate}
      {workspace : Workspace} (hp : s.phase i = .waiting)
      (hr : req i = .createProject userId body) (h : workspaceOf s.db userId = some workspace) :
      AccountStep req s (.locate i) ⟨s.db, s.moved i (.located workspace.id)⟩
  | homeless {s : AccountState ι} {i : ι} {userId : Int} {body : ProjectCreate} {user : User}
      (hp : s.phase i = .waiting) (hr : req i = .createProject userId body)
      (hu : s.db.users.find? userId = some user) (h : workspaceOf s.db userId = none) :
      AccountStep req s (.locate i) ⟨s.db, s.moved i .homeless⟩
  | house {s : AccountState ι} {i : ι} {userId : Int} {body : ProjectCreate}
      (hp : s.phase i = .homeless) (hr : req i = .createProject userId body) (now : Time) :
      AccountStep req s (.house i)
        ⟨housed s.db userId now, s.moved i (.located (Table.nextKey s.db.workspaces.rows))⟩
  | make {s : AccountState ι} {i : ι} {userId workspaceId : Int} {body : ProjectCreate}
      (hp : s.phase i = .located workspaceId) (hr : req i = .createProject userId body)
      (tick : Tick) :
      AccountStep req s (.make i)
        ⟨{ s.db with projects := s.db.projects.insert (newProject tick workspaceId body) },
          s.moved i (.made (s.db.projects.stored (newProject tick workspaceId body)))⟩
  | stop {s : AccountState ι} {i : ι} (hp : (s.phase i).Open) :
      AccountStep req s (.stop i) ⟨s.db, s.moved i .stopped⟩
  | update {s : AccountState ι} (projectId : Int) (body : ProjectUpdate) :
      AccountStep req s .other
        ⟨{ s.db with projects := s.db.projects.modify projectId (·.updated body) }, s.phase⟩
  | other {s : AccountState ι} {db : Db} (hu : db.users = s.db.users)
      (hw : db.workspaces = s.db.workspaces) (hp : db.projects = s.db.projects) :
      AccountStep req s .other ⟨db, s.phase⟩

variable {req : ι → AccountRequest}

theorem AccountState.moved_self (s : AccountState ι) (i : ι) (p : AccountPhase) :
    s.moved i p i = p :=
  Function.update_self _ _ _

theorem AccountState.moved_ne (s : AccountState ι) {i j : ι} (h : j ≠ i) (p : AccountPhase) :
    s.moved i p j = s.phase j :=
  Function.update_of_ne h _ _

/-! ### A request that nothing comes between -/

/-- A workspace is stored for nobody who has one. -/
def AccountState.Roomy (req : ι → AccountRequest) (s : AccountState ι) : AccountLabel ι → Prop
  | .settle i => ∀ user, s.phase i = .joined user → workspaceOf s.db user.id = none
  | .house i => ∀ userId body, req i = .createProject userId body → workspaceOf s.db userId = none
  | _ => True

section Serial

variable {s : AccountState ι} {i : ι}

/-- The rest of `signup`, for an email that is not taken. -/
theorem run_signup (cfg : Config) (tick : Tick) {email passwordHash : Str}
    (hp : s.phase i = .waiting) (hr : req i = .signup email passwordHash)
    (h : ¬ Taken s.db email) (hw : workspaceOf s.db (Table.nextKey s.db.users.rows) = none) :
    ∃ as s', Run.All (AccountStep req) (fun s a _ => s.Roomy req a) s as s' ∧
      s'.db = (signedUp cfg tick s.db email passwordHash).2 := by
  let user := s.db.users.stored ⟨0, email, passwordHash, tick.now⟩
  let s₁ : AccountState ι := ⟨s.db, s.moved i .free⟩
  let s₂ : AccountState ι :=
    ⟨{ s.db with users := s.db.users.insert ⟨0, email, passwordHash, tick.now⟩ },
      s₁.moved i (.joined user)⟩
  have free : s₁.phase i = .free := s.moved_self i _
  have joined : s₂.phase i = .joined user := s₁.moved_self i _
  have first : AccountStep req s (.check i) s₁ := .free hp hr h
  have second : AccountStep req s₁ (.join i) s₂ := .join free hr h tick.now
  have third : AccountStep req s₂ (.settle i)
      ⟨housed s₂.db user.id tick.now, s₂.moved i (.signedUp user)⟩ := .settle joined tick.now
  refine ⟨_, _, .cons first trivial (.cons second trivial (.cons third ?_ (.nil _))), rfl⟩
  intro user' hj
  rw [joined] at hj
  cases hj
  exact hw

/-- `create_project` -/
theorem run_createProject (tick : Tick) {user : User} {body : ProjectCreate}
    (hp : s.phase i = .waiting) (hr : req i = .createProject user.id body)
    (hu : s.db.users.find? user.id = some user) :
    ∃ as s', Run.All (AccountStep req) (fun s a _ => s.Roomy req a) s as s' ∧
      s'.db = (createProject tick user s.db body).2 := by
  unfold createProject ensureWorkspace
  cases hw : workspaceOf s.db user.id with
  | some workspace =>
      let s₁ : AccountState ι := ⟨s.db, s.moved i (.located workspace.id)⟩
      have located : s₁.phase i = .located workspace.id := s.moved_self i _
      have first : AccountStep req s (.locate i) s₁ := .locate hp hr hw
      have second : AccountStep req s₁ (.make i) _ := .make located hr tick
      exact ⟨_, _, .cons first trivial (.cons second trivial (.nil _)), rfl⟩
  | none =>
      let s₁ : AccountState ι := ⟨s.db, s.moved i .homeless⟩
      let s₂ : AccountState ι := ⟨housed s₁.db user.id tick.now,
        s₁.moved i (.located (Table.nextKey s₁.db.workspaces.rows))⟩
      have homeless : s₁.phase i = .homeless := s.moved_self i _
      have located : s₂.phase i = .located (Table.nextKey s₁.db.workspaces.rows) :=
        s₁.moved_self i _
      have first : AccountStep req s (.locate i) s₁ := .homeless hp hr hu hw
      have second : AccountStep req s₁ (.house i) s₂ := .house homeless hr tick.now
      have third : AccountStep req s₂ (.make i) _ := .make located hr tick
      refine ⟨_, _, .cons first trivial (.cons second ?_ (.cons third trivial (.nil _))), rfl⟩
      intro userId body' he
      rw [hr] at he
      cases he
      exact hw

end Serial

/-! ### Any order of steps -/

/-- Accounts keep apart, and every workspace and every project is somebody's. -/
structure AccountsApart (db : Db) : Prop where
  emails : ∀ user ∈ db.users.rows, ∀ other ∈ db.users.rows, user.email = other.email →
    user = other
  owners : ∀ workspace ∈ db.workspaces.rows, ∃ user ∈ db.users.rows,
    user.id = workspace.ownerUserId
  owned : ∀ project ∈ db.projects.rows, ∃ workspace ∈ db.workspaces.rows,
    workspace.id = project.workspaceId

/-- The row of a user that a sign-up has stored. -/
def AccountPhase.user : AccountPhase → Option User
  | .joined user | .signedUp user => some user
  | _ => none

/-- What a request has read or stored is there. -/
def AccountPhase.Holds (db : Db) (r : AccountRequest) : AccountPhase → Prop
  | .joined user => user ∈ db.users.rows ∧ r = .signup user.email user.passwordHash
  | .signedUp user =>
      (user ∈ db.users.rows ∧ r = .signup user.email user.passwordHash) ∧
        ∃ workspace ∈ db.workspaces.rows, workspace.ownerUserId = user.id
  | .homeless => ∃ userId body, r = .createProject userId body ∧
      ∃ user ∈ db.users.rows, user.id = userId
  | .located workspaceId => ∃ userId body, r = .createProject userId body ∧
      ∃ workspace ∈ db.workspaces.rows, workspace.id = workspaceId ∧
        workspace.ownerUserId = userId
  | .made project => ∃ userId body current, r = .createProject userId body ∧
      ownedProject db project.id userId = .ok current ∧ project.Stays current
  | _ => True

structure AccountHistory (req : ι → AccountRequest) (s : AccountState ι) : Prop where
  accounts : AccountsApart s.db
  holds : ∀ i, (s.phase i).Holds s.db (req i)
  apart : ∀ i j user, (s.phase i).user = some user → (s.phase j).user = some user → i = j

/-- What a step leaves of the tables. -/
theorem AccountStep.evolves {s s' : AccountState ι} {a : AccountLabel ι}
    (hs : AccountStep req s a s') :
    Evolves Eq s.db.users s'.db.users ∧ Evolves Eq s.db.workspaces s'.db.workspaces ∧
      Evolves Project.Stays s.db.projects s'.db.projects := by
  have users := Evolves.refl (fun _ => rfl) s.db.users
  have workspaces := Evolves.refl (fun _ => rfl) s.db.workspaces
  have projects := Evolves.refl Project.Stays.refl s.db.projects
  cases hs with
  | join => exact ⟨.insert (fun _ => rfl) _ _, workspaces, projects⟩
  | settle => exact ⟨users, .insert (fun _ => rfl) _ _, projects⟩
  | house => exact ⟨users, .insert (fun _ => rfl) _ _, projects⟩
  | make => exact ⟨users, workspaces, .insert Project.Stays.refl _ _⟩
  | update projectId body =>
      refine ⟨users, workspaces, .modify Project.Stays.refl fun project _ hi => ?_⟩
      rw [← hi]
      rfl
  | other hu hw hp => exact ⟨hu ▸ users, hw ▸ workspaces, hp ▸ projects⟩
  | _ => exact ⟨users, workspaces, projects⟩

theorem mem_of_evolves {ρ : Type*} [Row ρ] {t t' : Table ρ} (h : Evolves Eq t t') {r : ρ}
    (hr : r ∈ t.rows) : r ∈ t'.rows := by
  obtain ⟨_, hr', rfl⟩ := h.exists_of_mem hr
  exact hr'

theorem AccountPhase.Holds.mono {s s' : AccountState ι} {a : AccountLabel ι}
    (hs : AccountStep req s a s') {r : AccountRequest} {p : AccountPhase} (h : p.Holds s.db r) :
    p.Holds s'.db r := by
  obtain ⟨users, workspaces, projects⟩ := hs.evolves
  cases p with
  | joined user => exact ⟨mem_of_evolves users h.1, h.2⟩
  | signedUp user =>
      obtain ⟨⟨hu, hr⟩, ws, hw, ho⟩ := h
      exact ⟨⟨mem_of_evolves users hu, hr⟩, ws, mem_of_evolves workspaces hw, ho⟩
  | homeless =>
      obtain ⟨userId, body, hr, user, hu, hid⟩ := h
      exact ⟨userId, body, hr, user, mem_of_evolves users hu, hid⟩
  | located workspaceId =>
      obtain ⟨userId, body, hr, ws, hw, hid, ho⟩ := h
      exact ⟨userId, body, hr, ws, mem_of_evolves workspaces hw, hid, ho⟩
  | made project =>
      obtain ⟨userId, body, current, hr, ho, hstays⟩ := h
      obtain ⟨current', ho', hstays'⟩ := ownedProject_of_evolves workspaces projects ho
      exact ⟨userId, body, current', hr, ho', hstays.trans _ _ _ hstays'⟩
  | _ => trivial

/-- A request goes on to a phase that holds. -/
theorem AccountStep.holds {s s' : AccountState ι} {a : AccountLabel ι}
    (hs : AccountStep req s a s') (h : ∀ i, (s.phase i).Holds s.db (req i)) (j : ι) :
    (s'.phase j).Holds s'.db (req j) := by
  have kept := (h j).mono hs
  -- the phase of the request that has taken the step, and those of the others
  have by_phase : ∀ {i : ι} {p : AccountPhase}, s'.phase = s.moved i p →
      p.Holds s'.db (req i) → (s'.phase j).Holds s'.db (req j) := by
    intro i p he hp
    rw [he]
    by_cases hj : j = i
    · subst hj
      rw [s.moved_self]
      exact hp
    · rw [s.moved_ne hj]
      exact kept
  cases hs with
  | @join i email passwordHash hp hr hn now =>
      exact by_phase rfl ⟨Table.mem_insert.mpr (.inr rfl), hr⟩
  | @settle i user hp now =>
      have joined := h i
      rw [hp] at joined
      exact by_phase rfl ⟨joined, _, Table.mem_insert.mpr (.inr rfl), rfl⟩
  | @locate i userId body workspace hp hr hw =>
      have owner := List.find?_some hw
      exact by_phase rfl ⟨userId, body, hr, workspace, List.mem_of_find?_eq_some hw, rfl,
        beq_iff_eq.mp owner⟩
  | @homeless i userId body user hp hr hu hw =>
      obtain ⟨hu, hid⟩ := Table.find?_eq_some_iff.mp hu
      exact by_phase rfl ⟨userId, body, hr, user, hu, hid⟩
  | @house i userId body hp hr now =>
      exact by_phase rfl ⟨userId, body, hr, _, Table.mem_insert.mpr (.inr rfl), rfl, rfl⟩
  | @make i userId workspaceId body hp hr tick =>
      have located := h i
      rw [hp] at located
      obtain ⟨userId', body', hr', ws, hw, hid, ho⟩ := located
      rw [hr] at hr'
      cases hr'
      refine by_phase rfl ⟨userId, body, _, hr, ownedProject_eq_ok.mpr ⟨?_, ws, ?_, ho⟩, .refl _⟩
      · exact Table.find?_eq_some_iff.mpr ⟨Table.mem_insert.mpr (.inr rfl), rfl⟩
      · exact Table.find?_eq_some_iff.mpr ⟨hw, hid⟩
  | taken => exact by_phase rfl trivial
  | free => exact by_phase rfl trivial
  | collide => exact by_phase rfl trivial
  | stop => exact by_phase rfl trivial
  | update => exact kept
  | other => exact kept

/-- A workspace for a user who is there. -/
theorem AccountsApart.housed {db : Db} (h : AccountsApart db) {user : User} {userId : Int}
    (hu : user ∈ db.users.rows) (hid : user.id = userId) (now : Time) :
    AccountsApart (housed db userId now) where
  emails := h.emails
  owners workspace hw := by
    rcases Table.mem_insert.mp hw with hw | rfl
    · exact h.owners workspace hw
    · exact ⟨user, hu, hid⟩
  owned project hp := by
    obtain ⟨workspace, hw, hid⟩ := h.owned project hp
    exact ⟨workspace, Table.mem_insert.mpr (.inl hw), hid⟩

theorem accounts_step {s s' : AccountState ι} {a : AccountLabel ι} (hs : AccountStep req s a s')
    (h : AccountHistory req s) : AccountsApart s'.db := by
  obtain ⟨emails, owners, owned⟩ := h.accounts
  cases hs with
  | @join i email passwordHash hp hr hn now =>
      refine ⟨fun user hu other ho he => ?_, fun workspace hw => ?_, owned⟩
      · rcases Table.mem_insert.mp hu with hu | rfl
        · rcases Table.mem_insert.mp ho with ho | rfl
          · exact emails user hu other ho he
          · exact absurd ⟨user, hu, he⟩ hn
        · rcases Table.mem_insert.mp ho with ho | rfl
          · exact absurd ⟨other, ho, he.symm⟩ hn
          · rfl
      · obtain ⟨user, hu, hid⟩ := owners workspace hw
        exact ⟨user, Table.mem_insert.mpr (.inl hu), hid⟩
  | @settle i user hp now =>
      have joined := h.holds i
      rw [hp] at joined
      exact h.accounts.housed joined.1 rfl now
  | @house i userId body hp hr now =>
      have homeless := h.holds i
      rw [hp] at homeless
      obtain ⟨userId', body', hr', user, hu, hid⟩ := homeless
      rw [hr] at hr'
      cases hr'
      exact h.accounts.housed hu hid now
  | @make i userId workspaceId body hp hr tick =>
      have located := h.holds i
      rw [hp] at located
      obtain ⟨-, -, -, ws, hw, hid, -⟩ := located
      refine ⟨emails, owners, fun project hj => ?_⟩
      rcases Table.mem_insert.mp hj with hj | rfl
      · exact owned project hj
      · exact ⟨ws, hw, hid⟩
  | update projectId body =>
      refine ⟨emails, owners, fun project hj => ?_⟩
      rcases Table.mem_modify.mp hj with ⟨hj, -⟩ | ⟨old, hold, -, rfl⟩
      · exact owned project hj
      · exact owned old hold
  | other hu hw hp =>
      exact ⟨hu.symm ▸ emails, hu.symm ▸ hw.symm ▸ owners, hw.symm ▸ hp.symm ▸ owned⟩
  | _ => exact h.accounts

/-- The row that a sign-up stores is no other's. -/
theorem apart_step {s s' : AccountState ι} {a : AccountLabel ι} (hs : AccountStep req s a s')
    (h : AccountHistory req s) (i j : ι) (user : User) (hi : (s'.phase i).user = some user)
    (hj : (s'.phase j).user = some user) : i = j := by
  -- a step that gives nobody a row that it did not have
  have kept : ∀ {k : ι} {p : AccountPhase}, s'.phase = s.moved k p →
      (∀ u, p.user = some u → (s.phase k).user = some u) → i = j := by
    intro k p he hp
    have old : ∀ n, (s'.phase n).user = some user → (s.phase n).user = some user := by
      intro n hn
      rw [he] at hn
      by_cases hk : n = k
      · subst hk
        rw [s.moved_self] at hn
        exact hp user hn
      · rwa [s.moved_ne hk] at hn
    exact h.apart i j user (old i hi) (old j hj)
  cases hs with
  | @join k email passwordHash hp hr hn now =>
      -- nobody has the new row yet
      have fresh : ∀ n, n ≠ k →
          (s.moved k (.joined (s.db.users.stored ⟨0, email, passwordHash, now⟩)) n).user ≠
            some (s.db.users.stored ⟨0, email, passwordHash, now⟩) := by
        intro n hk hu
        rw [s.moved_ne hk] at hu
        have held := h.holds n
        have stored : s.db.users.stored ⟨0, email, passwordHash, now⟩ ∈ s.db.users.rows := by
          cases hph : s.phase n with
          | joined u =>
              rw [hph] at hu held
              cases hu
              exact held.1
          | signedUp u =>
              rw [hph] at hu held
              cases hu
              exact held.1.1
          | _ => rw [hph] at hu; cases hu
        exact absurd (Table.key_lt_nextKey stored) (lt_irrefl _)
      dsimp only at hi hj
      by_cases hik : i = k
      · by_cases hjk : j = k
        · rw [hik, hjk]
        · subst hik
          rw [s.moved_self] at hi
          cases hi
          exact absurd hj (fresh j hjk)
      · by_cases hjk : j = k
        · subst hjk
          rw [s.moved_self] at hj
          cases hj
          exact absurd hi (fresh i hik)
        · rw [s.moved_ne hik] at hi
          rw [s.moved_ne hjk] at hj
          exact h.apart i j user hi hj
  | @settle k u hp now =>
      refine kept rfl fun u' hu => ?_
      rw [hp]
      exact hu
  | taken => exact kept rfl nofun
  | free => exact kept rfl nofun
  | collide => exact kept rfl nofun
  | locate => exact kept rfl nofun
  | homeless => exact kept rfl nofun
  | house => exact kept rfl nofun
  | make => exact kept rfl nofun
  | stop => exact kept rfl nofun
  | update => exact h.apart i j user hi hj
  | other => exact h.apart i j user hi hj

theorem accounts_empty : AccountsApart .empty := by
  constructor <;> intro _ h <;> cases h

omit [DecidableEq ι] in
theorem accountHistory_start {db : Db} (h : AccountsApart db) :
    AccountHistory req (.start db : AccountState ι) where
  accounts := h
  holds _ := trivial
  apart := nofun

theorem accountHistory_step {s s' : AccountState ι} {a : AccountLabel ι}
    (hs : AccountStep req s a s') (h : AccountHistory req s) : AccountHistory req s' where
  accounts := accounts_step hs h
  holds := hs.holds h.holds
  apart := apart_step hs h

/-- **Accounts under interleaving.**  In any order of the steps, and wherever requests stop, no two
accounts share an email; every sign-up that is answered has an account of its own with its email and
password, and a workspace; and every project that is answered is one of the user who has created
it. -/
theorem accountRaces_run {db : Db} (hd : AccountsApart db) {as : List (AccountLabel ι)}
    {s : AccountState ι} (h : Run (AccountStep req) (.start db) as s) :
    (∀ user ∈ s.db.users.rows, ∀ other ∈ s.db.users.rows, user.email = other.email →
      user = other) ∧
    (∀ i user, s.phase i = .signedUp user →
      user ∈ s.db.users.rows ∧ req i = .signup user.email user.passwordHash ∧
        (∃ workspace, workspaceOf s.db user.id = some workspace) ∧
        ∀ j, s.phase j = .signedUp user → j = i) ∧
    ∀ i project, s.phase i = .made project → ∃ userId body current,
      req i = .createProject userId body ∧ ownedProject s.db project.id userId = .ok current ∧
        project.Stays current := by
  have history : AccountHistory req s :=
    h.invariant (fun _ _ _ hs hi => accountHistory_step hs hi) (accountHistory_start hd)
  refine ⟨history.accounts.emails, fun i user hi => ?_, fun i project hi => ?_⟩
  · have held := history.holds i
    rw [hi] at held
    obtain ⟨⟨hu, hr⟩, workspace, hw, ho⟩ := held
    refine ⟨hu, hr, ?_, fun j hj => history.apart j i user (by rw [hj]; rfl) (by rw [hi]; rfl)⟩
    exact Option.isSome_iff_exists.mp
      (List.find?_isSome.mpr ⟨workspace, hw, beq_iff_eq.mpr ho⟩)
  · have held := history.holds i
    rw [hi] at held
    exact held

/-- Two sign-ups with one email. -/
def sameEmail : Bool → AccountRequest := fun _ => .signup "a@b.co" "hash"

/-- Both find the email free, and the column refuses the second. -/
theorem accountRaces_run_sameEmail : ∃ as s,
    Run (AccountStep sameEmail) (.start .empty) as s ∧
      s.phase false = .collided ∧ s.db.users.rows = [⟨1, "a@b.co", "hash", 5⟩] ∧
      ∃ workspace, workspaceOf s.db 1 = some workspace := by
  let user : User := ⟨1, "a@b.co", "hash", 5⟩
  let joinedDb : Db := { Db.empty with users := Table.empty.insert ⟨0, "a@b.co", "hash", 5⟩ }
  let s₀ : AccountState Bool := .start .empty
  let s₁ : AccountState Bool := ⟨.empty, s₀.moved true .free⟩
  let s₂ : AccountState Bool := ⟨.empty, s₁.moved false .free⟩
  let s₃ : AccountState Bool := ⟨joinedDb, s₂.moved true (.joined user)⟩
  let s₄ : AccountState Bool := ⟨joinedDb, s₃.moved false .collided⟩
  let s₅ : AccountState Bool := ⟨housed joinedDb user.id 6, s₄.moved true (.signedUp user)⟩
  have asks : ∀ i, sameEmail i = .signup "a@b.co" "hash" := fun _ => rfl
  have untaken : ¬ Taken Db.empty "a@b.co" := nofun
  have free : s₂.phase true = .free := rfl
  have late : s₃.phase false = .free := rfl
  have joined : s₄.phase true = .joined user := rfl
  have h₁ : AccountStep sameEmail s₀ (.check true) s₁ := .free rfl (asks true) untaken
  have h₂ : AccountStep sameEmail s₁ (.check false) s₂ := .free rfl (asks false) untaken
  have h₃ : AccountStep sameEmail s₂ (.join true) s₃ := .join free (asks true) untaken 5
  have h₄ : AccountStep sameEmail s₃ (.join false) s₄ :=
    .collide late (asks false) ⟨user, List.mem_singleton_self user, rfl⟩
  have h₅ : AccountStep sameEmail s₄ (.settle true) s₅ := .settle joined 6
  have run := Run.cons h₁ (.cons h₂ (.cons h₃ (.cons h₄ (.one h₅))))
  have answered := (accountRaces_run accounts_empty run).2.1 true user rfl
  exact ⟨_, _, run, rfl, rfl, answered.2.2.1⟩

/-! ### One workspace each -/

def OneWorkspace (db : Db) : Prop :=
  ∀ workspace ∈ db.workspaces.rows, ∀ other ∈ db.workspaces.rows,
    workspace.ownerUserId = other.ownerUserId → workspace = other

theorem workspaceOf_eq_none_iff {db : Db} {userId : Int} :
    workspaceOf db userId = none ↔
      ∀ workspace ∈ db.workspaces.rows, workspace.ownerUserId ≠ userId := by
  simp [workspaceOf]

/-- A second workspace is one too many. -/
theorem oneWorkspace_housed_iff {db : Db} (h : OneWorkspace db) (userId : Int) (now : Time) :
    OneWorkspace (housed db userId now) ↔ workspaceOf db userId = none := by
  rw [workspaceOf_eq_none_iff]
  constructor
  · intro h' workspace hw ho
    have same : workspace = db.workspaces.stored ⟨0, userId, "My Workspace", now⟩ :=
      h' workspace (Table.mem_insert.mpr (.inl hw)) _ (Table.mem_insert.mpr (.inr rfl)) ho
    rw [same] at hw
    exact absurd (Table.key_lt_nextKey hw) (lt_irrefl _)
  · intro hn workspace hw other hother ho
    rcases Table.mem_insert.mp hw with hw | rfl
    · rcases Table.mem_insert.mp hother with hother | rfl
      · exact h workspace hw other hother ho
      · exact absurd ho (hn workspace hw)
    · rcases Table.mem_insert.mp hother with hother | rfl
      · exact absurd ho.symm (hn other hother)
      · rfl

theorem oneWorkspace_step {s s' : AccountState ι} {a : AccountLabel ι}
    (hs : AccountStep req s a s') (h : OneWorkspace s.db) :
    OneWorkspace s'.db ↔ s.Roomy req a := by
  cases hs with
  | @settle i user hp now =>
      refine (oneWorkspace_housed_iff h user.id now).trans ⟨fun hn user' hp' => ?_, fun hr => ?_⟩
      · rw [hp] at hp'
        cases hp'
        exact hn
      · exact hr user hp
  | @house i userId body hp hr now =>
      refine (oneWorkspace_housed_iff h userId now).trans
        ⟨fun hn userId' body' hr' => ?_, fun hroom => hroom userId body hr⟩
      rw [hr] at hr'
      cases hr'
      exact hn
  | other hu hw hp =>
      refine iff_of_true ?_ trivial
      rw [OneWorkspace, hw]
      exact h
  | _ => exact iff_of_true h trivial

/-- Every project that its owner may use is listed, and no other. -/
def ListsOwned (db : Db) : Prop :=
  ∀ (user : User) (q : Json), q ∈ (listProjects user db).elems ↔
    ∃ p project, ownedProject db p user.id = .ok project ∧ q = projectToDict project

theorem listsOwned_of_oneWorkspace {db : Db} (h : OneWorkspace db) : ListsOwned db := by
  intro user q
  constructor
  · intro hq
    obtain ⟨project, ho, rfl⟩ := ownedProject_of_listed hq
    exact ⟨project.id, project, ho, rfl⟩
  · rintro ⟨p, project, ho, rfl⟩
    obtain ⟨hf, workspace, hwf, hown⟩ := ownedProject_eq_ok.mp ho
    obtain ⟨hf, -⟩ := Table.find?_eq_some_iff.mp hf
    obtain ⟨hwf, hid⟩ := Table.find?_eq_some_iff.mp hwf
    -- the workspace that is found first is the only one
    obtain ⟨first, hfirst⟩ : ∃ first, workspaceOf db user.id = some first :=
      Option.isSome_iff_exists.mp (List.find?_isSome.mpr ⟨workspace, hwf, beq_iff_eq.mpr hown⟩)
    have owner := List.find?_some hfirst
    obtain rfl := h first (List.mem_of_find?_eq_some hfirst) workspace hwf
      ((beq_iff_eq.mp owner).trans hown.symm)
    rw [listProjects, hfirst]
    refine List.mem_map.mpr ⟨project, mem_orderDesc.mpr (List.mem_filter.mpr ⟨hf, ?_⟩), rfl⟩
    exact beq_iff_eq.mpr hid.symm

/-- **One workspace per user.**  From a database in which nobody has two, the runs in which nobody
ever has two are those in which a workspace is stored for nobody who has one; and in these, every
project of a user is listed. -/
theorem projectLists_run {db : Db} (h : OneWorkspace db) {as : List (AccountLabel ι)}
    {s : AccountState ι} :
    (Run.All (AccountStep req) (fun _ _ t => OneWorkspace t.db) (.start db) as s ↔
      Run.All (AccountStep req) (fun s a _ => s.Roomy req a) (.start db) as s) ∧
    (Run.All (AccountStep req) (fun s a _ => s.Roomy req a) (.start db) as s →
      ListsOwned s.db) := by
  refine ⟨Run.All.within_iff (I := fun s : AccountState ι => OneWorkspace s.db)
    (fun _ _ _ hs hi => oneWorkspace_step hs hi) h, fun run => ?_⟩
  have one : OneWorkspace s.db := run.invariant (I := fun s : AccountState ι => OneWorkspace s.db)
    (fun _ _ _ hs hr hi => (oneWorkspace_step hs hi).mpr hr) h
  exact listsOwned_of_oneWorkspace one

/-- Of a user, who has no workspace. -/
def homelessDb : Db := { Db.empty with users := Table.empty.insert ⟨0, "a@b.co", "hash", 0⟩ }

/-- The user creates two projects at a time. -/
def twoProjects : Bool → AccountRequest := fun _ => .createProject 1 ⟨"p", "model", none, none⟩

/-- Each request stores a workspace, and the project in the second one is not listed. -/
theorem projectLists_run_twoWorkspaces : ∃ as s,
    Run (AccountStep twoProjects) (.start homelessDb) as s ∧ (ownedProject s.db 2 1).isOk ∧
      (listProjects ⟨1, "a@b.co", "hash", 0⟩ s.db).elems.length = 1 ∧
      ¬ Run.All (AccountStep twoProjects) (fun s a _ => s.Roomy twoProjects a)
        (.start homelessDb) as s := by
  let user : User := ⟨1, "a@b.co", "hash", 0⟩
  let body : ProjectCreate := ⟨"p", "model", none, none⟩
  let made (db : Db) (workspaceId : Int) : Db :=
    { db with projects := db.projects.insert (newProject .zero workspaceId body) }
  let first : Project := { newProject .zero 1 body with id := 1 }
  let second : Project := { newProject .zero 2 body with id := 2 }
  let s₀ : AccountState Bool := .start homelessDb
  let s₁ : AccountState Bool := ⟨s₀.db, s₀.moved true .homeless⟩
  let s₂ : AccountState Bool := ⟨s₁.db, s₁.moved false .homeless⟩
  let s₃ : AccountState Bool := ⟨housed s₂.db 1 0, s₂.moved true (.located 1)⟩
  let s₄ : AccountState Bool := ⟨housed s₃.db 1 0, s₃.moved false (.located 2)⟩
  let s₅ : AccountState Bool := ⟨made s₄.db 1, s₄.moved true (.made first)⟩
  let s₆ : AccountState Bool := ⟨made s₅.db 2, s₅.moved false (.made second)⟩
  have asks : ∀ i, twoProjects i = .createProject 1 body := fun _ => rfl
  have alone : OneWorkspace homelessDb := nofun
  have known : homelessDb.users.find? 1 = some user := rfl
  have homeless : s₂.phase true = .homeless := rfl
  have homeless' : s₃.phase false = .homeless := rfl
  have located : s₄.phase true = .located 1 := rfl
  have located' : s₅.phase false = .located 2 := rfl
  have h₁ : AccountStep twoProjects s₀ (.locate true) s₁ := .homeless rfl (asks true) known rfl
  have h₂ : AccountStep twoProjects s₁ (.locate false) s₂ := .homeless rfl (asks false) known rfl
  have h₃ : AccountStep twoProjects s₂ (.house true) s₃ := .house homeless (asks true) 0
  have h₄ : AccountStep twoProjects s₃ (.house false) s₄ := .house homeless' (asks false) 0
  have h₅ : AccountStep twoProjects s₄ (.make true) s₅ := .make located (asks true) .zero
  have h₆ : AccountStep twoProjects s₅ (.make false) s₆ := .make located' (asks false) .zero
  have owned : ownedProject s₆.db 2 1 = .ok second := rfl
  have listed : (listProjects user s₆.db).elems = [projectToDict first] := rfl
  refine ⟨_, s₆, .cons h₁ (.cons h₂ (.cons h₃ (.cons h₄ (.cons h₅ (.one h₆))))), ?_, ?_, ?_⟩
  · rw [owned]
    rfl
  · rw [listed]
    rfl
  · intro roomy
    have all := (projectLists_run alone).2 roomy user (projectToDict second)
    have shown := all.mpr ⟨2, second, owned, rfl⟩
    rw [listed] at shown
    exact absurd (congrArg (Json.get · "id") (List.mem_singleton.mp shown)) nofun

/-! ### One request after the other -/

section Process

variable {cfg : Config} {tick : Tick} {w : World}

/-- A request that is served alone takes steps of the requests above, and stores a workspace for
nobody who has one. -/
def Steps (db db' : Db) : Prop :=
  ∃ (request : AccountRequest) (as : List (AccountLabel Unit)) (s' : AccountState Unit),
    Run.All (AccountStep fun _ => request) (fun s a _ => s.Roomy (fun _ => request) a)
      (.start db) as s' ∧ s'.db = db'

theorem steps_of_same {db db' : Db}
    (h : ∃ callLogs findings testRunResults agentActionLogs securityEvents apiKeys baselines,
      db' = { db with
        callLogs, findings, testRunResults, agentActionLogs, securityEvents, apiKeys, baselines }) :
    Steps db db' := by
  obtain ⟨_, _, _, _, _, _, _, he⟩ := h
  have step : AccountStep (fun _ => .signup [] []) (AccountState.start db : AccountState Unit)
      .other ⟨db', fun _ => .waiting⟩ := by
    apply AccountStep.other <;> rw [he] <;> rfl
  exact ⟨_, _, _, .cons step trivial (.nil _), rfl⟩

theorem steps_openBody (h : AccountsApart w.db) (client : Option Str) (route : OpenRoute) :
    Steps w.db (openBody cfg tick w client route).2.db := by
  have same : Steps w.db w.db := steps_of_same ⟨_, _, _, _, _, _, _, rfl⟩
  cases route with
  | signup body =>
      unfold openBody signup
      dsimp only
      split
      · exact same
      · split
        · exact same
        · split
          · exact same
          · rename_i hn
            split
            · exact same
            · rename_i passwordHash _
              have free : ¬ Taken w.db (cfg.U.lower body.email) := by
                rintro ⟨user, hu, he⟩
                exact hn (List.any_eq_true.mpr ⟨user, hu, beq_iff_eq.mpr he⟩)
              -- the user is new, and so nobody has a workspace of that user's
              have room : workspaceOf w.db (Table.nextKey w.db.users.rows) = none := by
                refine workspaceOf_eq_none_iff.mpr fun workspace hw ho => ?_
                obtain ⟨user, hu, hid⟩ := h.owners workspace hw
                exact absurd (Table.key_lt_nextKey hu) (hid.trans ho ▸ lt_irrefl _)
              let s : AccountState Unit := .start w.db
              obtain ⟨as, s', run, hs'⟩ := @run_signup Unit _
                (fun _ => .signup (cfg.U.lower body.email) passwordHash) s () cfg tick
                (cfg.U.lower body.email) passwordHash rfl rfl free room
              exact ⟨_, as, s', run, hs'⟩
  | login body =>
      unfold openBody login
      dsimp only
      split
      · exact same
      · split
        · exact same
        · split <;> exact same
  | approve_agent_action logId approver =>
      obtain ⟨_, _, he⟩ := @resolveAction_frame cfg tick w.db logId approver true
      exact steps_of_same ⟨_, _, _, _, _, _, _, he⟩
  | reject_agent_action logId approver =>
      obtain ⟨_, _, he⟩ := @resolveAction_frame cfg tick w.db logId approver false
      exact steps_of_same ⟨_, _, _, _, _, _, _, he⟩
  | apply_event_retention =>
      unfold openBody
      dsimp only
      split
      · exact same
      · exact steps_of_same ⟨_, _, _, _, _, _, _, rfl⟩
  | _ => exact same

theorem steps_userBody {user : User} (hu : w.db.users.find? user.id = some user)
    (route : UserRoute) : Steps w.db (userBody cfg tick user w route).2.db := by
  cases route with
  | create_project body =>
      let s : AccountState Unit := .start w.db
      obtain ⟨as, s', run, hs'⟩ := @run_createProject Unit _
        (fun _ => .createProject user.id body) s () tick user body rfl rfl hu
      exact ⟨_, as, s', run, hs'⟩
  | evaluate_agent_action agentId body projectId =>
      obtain ⟨_, _, he⟩ := @evaluateAction_frame cfg tick user w.db agentId body projectId
      exact steps_of_same ⟨_, _, _, _, _, _, _, he⟩
  | update_finding_status findingId status =>
      obtain ⟨_, he⟩ := @updateFindingStatus_frame tick user w.db findingId status
      exact steps_of_same ⟨_, _, _, _, _, _, _, he⟩
  | generate req =>
      have he : OnlyLogs w.db (userBody cfg tick user w (.generate req)).2.db :=
        onlyLogs_generate _ _ user
      exact steps_of_same ⟨_, _, _, _, _, _, _, he⟩
  | _ => exact steps_of_same ⟨_, _, _, _, _, _, _, rfl⟩

theorem steps_projectBody {db : Db} (project : Project) (route : ProjectRoute) :
    Steps db (projectBody cfg tick project db route).2 := by
  cases route with
  | update_project body =>
      exact ⟨.signup [] [], _, _, .cons (.update project.id body) trivial (.nil _), rfl⟩
  | create_project_api_key name =>
      unfold projectBody createProjectApiKey
      dsimp only
      split <;> exact steps_of_same ⟨_, _, _, _, _, _, _, rfl⟩
  | revoke_project_api_key keyId =>
      unfold projectBody revokeProjectApiKey
      dsimp only
      split <;> exact steps_of_same ⟨_, _, _, _, _, _, _, rfl⟩
  | create_security_baseline name runId =>
      unfold projectBody createSecurityBaseline
      dsimp only
      split <;> exact steps_of_same ⟨_, _, _, _, _, _, _, rfl⟩
  | _ => exact steps_of_same ⟨_, _, _, _, _, _, _, rfl⟩

/-- **The process takes these steps.**  Every request that it serves does. -/
theorem steps_handle (h : AccountsApart w.db) (r : Request) :
    Steps w.db (handle cfg tick w r).2.db := by
  have left := leaves_handle cfg tick w r
  generalize (handle cfg tick w r).2 = w' at left ⊢
  cases left with
  | refused => exact steps_of_same ⟨_, _, _, _, _, _, _, rfl⟩
  | stamped => exact steps_of_same ⟨_, _, _, _, _, _, _, rfl⟩
  | unguarded => exact steps_openBody h _ _
  | @ofUser route user hg he hu =>
      obtain ⟨token, -, ht⟩ := getCurrentUser_eq_ok.mp hu
      obtain ⟨userId, -, hf⟩ := tokenUser_eq_ok.mp ht
      obtain ⟨-, hid⟩ := Table.find?_eq_some_iff.mp hf
      exact steps_userBody ((show user.id = userId from hid) ▸ hf) route
  | ofProject => exact steps_projectBody _ _
  | @ofKey p route project keys he hp =>
      obtain ⟨_, _, _, hk⟩ := @keyBody_frame cfg tick project { w.db with apiKeys := keys } route
      exact steps_of_same ⟨_, _, _, _, _, _, _, hk⟩

theorem accounts_of_steps {db db' : Db} (h : Steps db db') (ha : AccountsApart db)
    (ho : OneWorkspace db) : AccountsApart db' ∧ OneWorkspace db' := by
  obtain ⟨request, as, s', run, rfl⟩ := h
  have both : AccountHistory (fun _ => request) s' ∧ OneWorkspace s'.db :=
    run.invariant
      (I := fun s : AccountState Unit => AccountHistory (fun _ => request) s ∧ OneWorkspace s.db)
      (fun _ _ _ hs hr hi => ⟨accountHistory_step hs hi.1, (oneWorkspace_step hs hi.2).mpr hr⟩)
      ⟨accountHistory_start ha, ho⟩
  exact ⟨both.1.accounts, both.2⟩

/-- **Where requests are served one after the other**, no two accounts share an email, every user
has at most one workspace, and `GET /v1/projects` lists exactly the projects that `owned_project`
accepts. -/
theorem listProjects_run {hs : List (Tick × Happening)} (run : Run (Step cfg) .empty hs w) :
    AccountsApart w.db ∧ OneWorkspace w.db ∧ ListsOwned w.db := by
  have both : AccountsApart w.db ∧ OneWorkspace w.db := by
    refine run.invariant (I := fun w => AccountsApart w.db ∧ OneWorkspace w.db) ?_
      ⟨accounts_empty, nofun⟩
    rintro w ⟨tick, happening⟩ w' hstep ⟨ha, ho⟩
    rcases step_cases hstep with ⟨r, -, rfl⟩ | ⟨-, events, he⟩
    · exact accounts_of_steps (steps_handle ha r) ha ho
    · exact accounts_of_steps (steps_of_same ⟨_, _, _, _, _, _, _, he⟩) ha ho
  exact ⟨both.1, both.2, listsOwned_of_oneWorkspace both.2⟩

/-- A user signs up, and creates a project. -/
theorem listProjects_run_firstSync :
    let w := serveAll .demo .zero .empty firstSync
    ListsOwned w.db ∧ w.db.projects.rows.length = 1 ∧ w.db.workspaces.rows.length = 1 :=
  ⟨(listProjects_run (run_serveAll firstSync .empty)).2.2, by decide +kernel⟩

end Process

end SentinelAI

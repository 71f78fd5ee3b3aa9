import SentinelAI.Proxy.Config

/-!
# Proxy — Projects

`proxy/projects.py`: workspaces and projects, and `owned_project`, through which every request that
names a project is to go.
-/

namespace SentinelAI
open Support

structure ProjectCreate where
  name : Str
  targetType : Str := "model"
  repoUrl : Option Str := none
  description : Option Str := none

structure ProjectUpdate where
  name : Option Str := none
  repoUrl : Option Str := none
  description : Option Str := none

def createWorkspaceForUser (t : Table Workspace) (userId : Int) (now : Time) : Table Workspace :=
  t.insert ⟨0, userId, "My Workspace", now⟩

def projectToDict (p : Project) : Json :=
  .obj [("id", .int p.id), ("workspace_id", .int p.workspaceId), ("name", .str p.name),
    ("target_type", .str p.targetType), ("repo_url", .opt .str p.repoUrl),
    ("description", .opt .str p.description), ("created_at", .time p.createdAt)]

/-- The same for a project of someone else as for none. -/
def projectNotFound : Raised := .http 404 "project_not_found" "No such project."

/-- `owned_project`, for the user with id `userId`. -/
def ownedProject (db : Db) (projectId userId : Int) : Except Raised Project :=
  match db.projects.find? projectId with
  | none => .error projectNotFound
  | some project =>
      match db.workspaces.find? project.workspaceId with
      | none => .error projectNotFound
      | some workspace =>
          if workspace.ownerUserId ≠ userId then .error projectNotFound else .ok project

/-! ### Ownership -/

/-- The project `p` is in a workspace of user `userId`. -/
def Owns (db : Db) (userId p : Int) : Prop :=
  ∃ project workspace, db.projects.find? p = some project ∧
    db.workspaces.find? project.workspaceId = some workspace ∧ workspace.ownerUserId = userId

theorem ownedProject_eq_ok {db : Db} {projectId userId : Int} {project : Project} :
    ownedProject db projectId userId = .ok project ↔
      db.projects.find? projectId = some project ∧
        ∃ workspace, db.workspaces.find? project.workspaceId = some workspace ∧
          workspace.ownerUserId = userId := by
  unfold ownedProject
  cases hp : db.projects.find? projectId with
  | none => simp
  | some row =>
      dsimp only
      cases hw : db.workspaces.find? row.workspaceId with
      | none =>
          refine ⟨fun h => (nomatch h), ?_⟩
          rintro ⟨⟨⟩, _, h, -⟩
          rw [hw] at h
          cases h
      | some workspace =>
          dsimp only
          by_cases ho : workspace.ownerUserId = userId
          · rw [if_neg (not_not.mpr ho)]
            constructor
            · rintro ⟨⟩
              exact ⟨rfl, workspace, hw, ho⟩
            · rintro ⟨⟨⟩, -⟩
              rfl
          · rw [if_pos ho]
            refine ⟨fun h => (nomatch h), ?_⟩
            rintro ⟨⟨⟩, w, h, h'⟩
            rw [hw] at h
            cases h
            exact absurd h' ho

/-- A request for a project that is not the caller's fails in one way. -/
theorem ownedProject_eq_error {db : Db} {projectId userId : Int} {e : Raised}
    (h : ownedProject db projectId userId = .error e) : e = projectNotFound := by
  unfold ownedProject at h
  split at h
  · exact (Except.error.inj h).symm
  · split at h
    · exact (Except.error.inj h).symm
    · split at h
      · exact (Except.error.inj h).symm
      · cases h

theorem owns_of_ownedProject {db : Db} {projectId userId : Int} {project : Project}
    (h : ownedProject db projectId userId = .ok project) :
    Owns db userId projectId ∧ project.id = projectId := by
  obtain ⟨hp, w, hw, ho⟩ := ownedProject_eq_ok.mp h
  exact ⟨⟨project, w, hp, hw, ho⟩, (Table.find?_eq_some_iff.mp hp).2⟩

end SentinelAI

import SentinelAI.Properties.Policy
import SentinelAI.Proxy.AgentActions

/-!
# Properties — Replay

The log of decisions, evaluated again.  A row keeps the canonical names of the request it records,
which are evaluated like the names themselves (`evaluate_canon`).  It keeps no empty data source:
the evaluation looks that one up like any other, and the row records that there was none.

* `replays_iff`: the row of a request replays exactly when the data source is not empty, or is
  registered all the same, or was never looked at.
* `not_replays_empty`: a denied request whose row is allowed.
-/

namespace SentinelAI
open Support

variable (U : Ucd)

/-- The request rebuilt from a row. -/
def AgentActionLog.request (row : AgentActionLog) : ActionRequest :=
  ⟨row.tool, row.action, row.dataSource⟩

/-- The request rebuilt from the row is evaluated to the decision and the reason of the row. -/
def Replays (profile : AgentProfile) (row : AgentActionLog) : Prop :=
  (evaluate U profile row.request).decision = row.decision ∧
    (evaluate U profile row.request).reason = row.reason

variable {U} {profile : AgentProfile} {tool action : Str}

/-! ### Canonical names -/

/-- Canonical names are evaluated like the names they come from. -/
theorem evaluate_canon (dataSource : Option Str) :
    evaluate U profile ⟨U.canon tool, U.canon action, dataSource.map U.canon⟩ =
      evaluate U profile ⟨tool, action, dataSource⟩ := by
  unfold evaluate
  dsimp only
  rw [U.canon_canon tool, U.canon_canon action]
  cases dataSource with
  | none => rfl
  | some d =>
      have twice : (some (U.canon d)).filter (fun d => U.canon d ∉ profile.dataSources) =
          ((some d).filter fun d => U.canon d ∉ profile.dataSources).map U.canon := by
        rw [Option.filter_some, Option.filter_some, U.canon_canon]
        split
        · rfl
        · rfl
      rw [Option.map_some, twice]
      cases (some d).filter fun d => U.canon d ∉ profile.dataSources with
      | none => rfl
      | some e =>
          rw [Option.map_some]
          dsimp only
          rw [U.canon_canon]

/-! ### The data source -/

/-- The names of the request are in bounds, whatever its data source. -/
theorem inBounds_none_iff : InBounds U profile ⟨tool, action, none⟩ ↔
    ¬ (U.canon tool = [] ∨ U.canon action = []) ∧
      ¬ (wildcard ∈ U.canon action ∨ wildcard ∈ U.canon tool) ∧ U.canon tool ∈ profile.tools := by
  rw [not_or, not_or]
  constructor
  · intro h
    exact ⟨⟨h.tool_ne, h.action_ne⟩, ⟨h.action_plain, h.tool_plain⟩, h.registered⟩
  · rintro ⟨⟨h₁, h₂⟩, ⟨h₃, h₄⟩, h₅⟩
    exact ⟨h₁, h₂, h₃, h₄, h₅, fun _ h => nomatch h⟩

/-- Of a request whose names are out of bounds the data source is not looked at. -/
theorem evaluate_of_names_out (h : ¬ InBounds U profile ⟨tool, action, none⟩)
    (dataSource : Option Str) :
    evaluate U profile ⟨tool, action, dataSource⟩ = evaluate U profile ⟨tool, action, none⟩ := by
  rw [inBounds_none_iff] at h
  unfold evaluate
  dsimp only
  by_cases h₁ : U.canon tool = [] ∨ U.canon action = []
  · rw [if_pos h₁, if_pos h₁]
  · rw [if_neg h₁, if_neg h₁]
    by_cases h₂ : wildcard ∈ U.canon action ∨ wildcard ∈ U.canon tool
    · rw [if_pos h₂, if_pos h₂]
    · rw [if_neg h₂, if_neg h₂]
      have h₃ : U.canon tool ∉ profile.tools := fun h₃ => h ⟨h₁, h₂, h₃⟩
      rw [if_pos h₃, if_pos h₃]

/-- A registered data source changes nothing. -/
theorem evaluate_of_registered {d : Str} (h : U.canon d ∈ profile.dataSources) :
    evaluate U profile ⟨tool, action, some d⟩ = evaluate U profile ⟨tool, action, none⟩ := by
  have kept : (some d).filter (fun d => U.canon d ∉ profile.dataSources) = none :=
    Option.filter_some_neg (by simpa using h)
  unfold evaluate
  dsimp only
  rw [kept, Option.filter_none]

/-- An unregistered one is the reason, where there would be another. -/
theorem reason_ne_of_unregistered (hn : InBounds U profile ⟨tool, action, none⟩) {d : Str}
    (h : U.canon d ∉ profile.dataSources) :
    (evaluate U profile ⟨tool, action, none⟩).reason ≠
      (evaluate U profile ⟨tool, action, some d⟩).reason := by
  obtain ⟨h₁, h₂, h₃⟩ := inBounds_none_iff.mp hn
  have kept : (some d).filter (fun d => U.canon d ∉ profile.dataSources) = some d :=
    Option.filter_some_pos (by simpa using h)
  have source : (evaluate U profile ⟨tool, action, some d⟩).reason.head? = some 'D' := by
    unfold evaluate
    dsimp only
    rw [if_neg h₁, if_neg h₂, if_neg (not_not.mpr h₃), kept]
    rfl
  -- without a data source the rules decide, and say so
  have rules : (evaluate U profile ⟨tool, action, none⟩).reason.head? = some 'M' ∨
      (evaluate U profile ⟨tool, action, none⟩).reason.head? = some 'N' := by
    unfold evaluate
    dsimp only
    rw [if_neg h₁, if_neg h₂, if_neg (not_not.mpr h₃), Option.filter_none]
    dsimp only
    split
    · exact .inl rfl
    · exact .inr rfl
  intro he
  rw [he, source] at rules
  rcases rules with h | h
  · cases h
  · cases h

/-! ### The row -/

/-- The row is evaluated like the request without an empty data source. -/
theorem evaluate_request_decisionRow (request : ActionRequest) (projectId : Option Int)
    (now : Time) :
    evaluate U profile (decisionRow U profile request projectId now).request =
      evaluate U profile ⟨request.tool, request.action, request.dataSource.filter (· ≠ [])⟩ :=
  evaluate_canon _

/-- **Replay.**  The row of a request is evaluated again to the decision and the reason it stores
exactly when the data source is not the empty string, or the empty name is registered, or the names
of the request are out of bounds anyway. -/
theorem replays_iff (U : Ucd) (t : Table AgentActionLog) (profile : AgentProfile)
    (request : ActionRequest) (projectId : Option Int) (now : Time) :
    Replays U profile (evaluateAndRecord U t profile request projectId now).2.1 ↔
      (request.dataSource = some [] → InBounds U profile ⟨request.tool, request.action, none⟩ →
        [] ∈ profile.dataSources) := by
  obtain ⟨tool, action, dataSource⟩ := request
  -- the key that the table gives to the row is not evaluated
  change Replays U profile (decisionRow U profile ⟨tool, action, dataSource⟩ projectId now) ↔ _
  unfold Replays
  rw [evaluate_request_decisionRow]
  change (evaluate U profile ⟨tool, action, dataSource.filter (· ≠ [])⟩).decision =
      (evaluate U profile ⟨tool, action, dataSource⟩).decision ∧
    (evaluate U profile ⟨tool, action, dataSource.filter (· ≠ [])⟩).reason =
      (evaluate U profile ⟨tool, action, dataSource⟩).reason ↔ _
  by_cases hd : dataSource = some []
  · subst hd
    have dropped : (some ([] : Str)).filter (· ≠ []) = none := rfl
    rw [dropped]
    have empty : U.canon [] = [] := rfl
    by_cases hn : InBounds U profile ⟨tool, action, none⟩
    · by_cases hr : [] ∈ profile.dataSources
      · rw [evaluate_of_registered (d := []) (by rwa [empty])]
        exact iff_of_true ⟨rfl, rfl⟩ fun _ _ => hr
      · refine iff_of_false (fun h => ?_) fun h => hr (h rfl hn)
        exact reason_ne_of_unregistered hn (by rwa [empty]) h.2
    · rw [evaluate_of_names_out hn (some [])]
      exact iff_of_true ⟨rfl, rfl⟩ fun _ h => absurd h hn
  · have kept : dataSource.filter (· ≠ []) = dataSource := by
      cases dataSource with
      | none => rfl
      | some d =>
          refine Option.filter_some_pos (decide_eq_true fun he => hd ?_)
          rw [he]
    rw [kept]
    exact iff_of_true ⟨rfl, rfl⟩ fun h => absurd h hd

/-- An agent that may read, from one data source. -/
def readingProfile : AgentProfile where
  agentId := "a"
  model := "m"
  tools := {"db".toList}
  dataSources := {"kb".toList}
  rules := [⟨"db", "read", .ALLOW⟩]

/-- **A row that does not replay.**  The request with an empty data source is denied; its row says
that there was none, and is allowed. -/
theorem not_replays_empty :
    let row := (evaluateAndRecord .ascii .empty readingProfile ⟨"db", "read", some []⟩ none 0).2.1
    row.decision = .DENY ∧ row.dataSource = none ∧
      (evaluate .ascii readingProfile row.request).decision = .ALLOW ∧
      ¬ Replays .ascii readingProfile row := by
  refine ⟨by decide, by decide, by decide, fun h => ?_⟩
  have decision := h.1
  revert decision
  decide

end SentinelAI

import SentinelAI.Proxy.PyGenerate

/-!
# Properties — Accounting

What `POST /v1/generate` leaves in the call log, whatever strings it is sent and answered.

* `accounted_iff`: the call is accounted for exactly when its row can be bound, its answer can be
  rendered, and it does not bring a provider's answer to a schema name that is not registered.
* `not_accounted_nope`: a call under such a name.
-/

namespace SentinelAI
open Support

/-- The call ends in a structured response, and exactly one row is logged: for the project of the
request, with the error code of the response, which is null exactly on 200. -/
def Accounted (projectId : Int) (db : Db) (result : Except Raised (Nat × GenerateResponse))
    (db' : Db) : Prop :=
  ∃ statusCode response row,
    result = .ok (statusCode, response) ∧
    db'.callLogs.rows = db.callLogs.rows ++ [row] ∧
    row.projectId = some projectId ∧
    row.errorCode = response.error.map (·.code) ∧
    (row.errorCode = none ↔ statusCode = 200)

/-- `schema_name` is null, empty or a registered name. -/
def GenerateRequest.SchemaKnown (req : GenerateRequest) : Prop :=
  ∀ name, req.schemaName = some name → name ≠ [] → SCHEMA_REGISTRY.lookup name ≠ none

theorem schemaKnown_of_unnamed {req : GenerateRequest}
    (h : req.schemaName.filter (· ≠ []) = none) : req.SchemaKnown := by
  intro name hname hne
  rw [hname, Option.filter_some, if_pos (by simpa using hne)] at h
  cases h

theorem schemaKnown_iff_of_named {req : GenerateRequest} {name : Str}
    (h : req.schemaName.filter (· ≠ []) = some name) :
    req.SchemaKnown ↔ SCHEMA_REGISTRY.lookup name ≠ none := by
  obtain ⟨hname, hne⟩ := Option.filter_eq_some_iff.mp h
  constructor
  · exact fun known => known name hname (by simpa using hne)
  · intro registered name' hname' _
    cases hname.symm.trans hname'
    exact registered

section Exits

variable {cfg : Config} {tick : Tick} {req : GenerateRequest} {db db' : Db}

/-- Every exit with an error accounts for the call. -/
theorem accounted_refuse {statusCode : Nat} {code : GenerateError} {message : Str} {usage : Usage}
    {guardrails : Guardrails} {event : Option EventFields} {counts : SessionCounts}
    {sent : Option (List Message)} (hs : statusCode ≠ 200) (hdb : db'.callLogs = db.callLogs) :
    Accounted req.projectId db
      (refuse cfg tick req statusCode code message usage guardrails event db' counts sent).result
      (refuse cfg tick req statusCode code message usage guardrails event db' counts sent).db := by
  refine ⟨statusCode, _, db.callLogs.stored (callRow tick req usage guardrails (some code)), rfl,
    ?_, rfl, rfl, iff_of_false (fun h => nomatch h) hs⟩
  rw [← hdb]
  cases event <;> rfl

theorem accounted_succeed {output : Json} {usage : Usage} {guardrails : Guardrails}
    {counts : SessionCounts} (hdb : db'.callLogs = db.callLogs) :
    Accounted req.projectId db (succeed tick req output usage guardrails db' counts).result
      (succeed tick req output usage guardrails db' counts).db := by
  refine ⟨200, _, db.callLogs.stored (callRow tick req usage guardrails none), rfl, ?_, rfl, rfl,
    iff_of_true rfl rfl⟩
  rw [← hdb]
  rfl

/-- An exception accounts for nothing. -/
theorem not_accounted_of_error {projectId : Int} {result : Except Raised (Nat × GenerateResponse)}
    {e : Raised} (h : result = .error e) : ¬ Accounted projectId db result db' := by
  rintro ⟨_, _, _, hr, -⟩
  rw [h] at hr
  cases hr

end Exits

end SentinelAI

namespace SentinelAI.Py
open Support

/-- What is left of the call accounts for it. -/
def Generated.Accounts (g : Generated) (req : GenerateRequest) (db : Db) : Prop :=
  Accounted req.projectId db g.result g.db

variable {cfg : Config} {tick : Tick} {build : ProviderName → Option PyStr → Provider}
  {req : GenerateRequest}

/-- An exit that accounts for the call on texts does so where its row is bound and its answer is
rendered. -/
theorem accounts_leave_iff {db db' : Db} {binds renders : Prop} [Decidable binds]
    [Decidable renders] {sent : Option (List Message)} {g : SentinelAI.Generated}
    (h : Accounted req.projectId db g.result g.db) :
    (leave db' binds renders sent g).Accounts req db ↔ binds ∧ renders := by
  constructor
  · intro accounts
    by_contra hn
    exact not_accounted_of_error (leave_of_not hn) accounts
  · rintro ⟨hb, hr⟩
    rw [leave_of hb hr]
    exact h

/-- What an answer must be for the call to be accounted for: its row is bound, and it is rendered,
which it is under a schema name, since then it is the validated value. -/
structure Loggable (req : GenerateRequest) (llm : LLMResponse) : Prop where
  binds : Binds req llm
  renders : req.texts.schemaName.filter (· ≠ []) = none → llm.text.Utf8

/-- **An answered call.** -/
theorem accounts_answered_iff {llm : LLMResponse} {db db' : Db} {counts : SessionCounts}
    (h : db'.callLogs = db.callLogs) :
    (answered cfg tick req llm db' counts).Accounts req db ↔
      Loggable req llm ∧ req.texts.SchemaKnown := by
  have hdb : (scanned cfg tick req llm db').callLogs = db.callLogs :=
    (callLogs_scanned llm db').trans h
  unfold answered
  dsimp only
  cases hn : req.texts.schemaName.filter (· ≠ []) with
  | none =>
      rw [accounts_leave_iff (accounted_succeed hdb),
        and_iff_left (schemaKnown_of_unnamed hn)]
      exact ⟨fun h => ⟨h.1, fun _ => h.2⟩, fun h => ⟨h.binds, h.renders hn⟩⟩
  | some name =>
      have loggable : Loggable req llm ↔ Binds req llm ∧ True :=
        ⟨fun h => ⟨h.binds, trivial⟩, fun h => ⟨h.1, fun none => nomatch hn.symm.trans none⟩⟩
      have known : req.texts.SchemaKnown ↔ validateStructuredOutput (validateJson cfg llm.text) name
          (fun _ => llm.read.text) ≠ .error .KeyError :=
        (schemaKnown_iff_of_named hn).trans validateStructuredOutput_eq_keyError.not.symm
      rw [known, loggable]
      dsimp only
      rcases validateStructuredOutput (validateJson cfg llm.text) name fun _ => llm.read.text with
        (_ | _) | ⟨value, retried⟩
      · -- the lookup in the registry raises, after the provider has answered
        exact iff_of_false (not_accounted_of_error rfl) fun h => h.2 rfl
      · rw [and_iff_left (by rintro ⟨⟩)]
        exact accounts_leave_iff (accounted_refuse (by decide) hdb)
      · rw [and_iff_left (by rintro ⟨⟩)]
        exact accounts_leave_iff (accounted_succeed hdb)

/-- An answer under a schema name that is not registered. -/
theorem answered_of_unknown (llm : LLMResponse) (db : Db) (counts : SessionCounts)
    (h : ¬ req.texts.SchemaKnown) : answered cfg tick req llm db counts =
      ⟨.error .unhandled, scanned cfg tick req llm db, counts, some req.messages⟩ := by
  unfold answered
  dsimp only
  cases hn : req.texts.schemaName.filter (· ≠ []) with
  | none => exact absurd (schemaKnown_of_unnamed hn) h
  | some name =>
      have unknown := not_not.mp fun registered => h ((schemaKnown_iff_of_named hn).mpr registered)
      dsimp only
      rw [validateStructuredOutput_eq_keyError.mpr unknown]

/-! ### A call -/

section Call

variable {provider : Provider} {db : Db} {counts : SessionCounts} {user : User} {project : Project}

/-- What a call stores can be bound, and what it answers can be rendered: the session has a UTF-8
encoding, and if a provider is called, so have the names and the text of its answer, whose counts of
tokens are of 64 bits, or the message of its error. -/
structure CallFits (cfg : Config) (build : ProviderName → Option PyStr → Provider)
    (req : GenerateRequest) (provider : Provider) (counts : SessionCounts) (user : User) :
    Prop where
  session : req.sessionId.Utf8
  answer : Called cfg req.texts counts user → ∀ llm,
    activeProvider build req provider req.messages = .ok llm → Loggable req llm
  error : Called cfg req.texts counts user → ∀ e,
    activeProvider build req provider req.messages = .error e → e.message.Utf8

theorem callFits_ok {llm : LLMResponse} (hc : Called cfg req.texts counts user)
    (ha : activeProvider build req provider req.messages = .ok llm) :
    CallFits cfg build req provider counts user ↔ Loggable req llm := by
  constructor
  · exact fun h => h.answer hc llm ha
  · intro loggable
    refine ⟨loggable.binds.1, fun _ llm' ha' => ?_, fun _ e he => ?_⟩
    · cases ha.symm.trans ha'
      exact loggable
    · cases ha.symm.trans he

theorem callFits_error {e : ProviderError} (hc : Called cfg req.texts counts user)
    (ha : activeProvider build req provider req.messages = .error e) :
    CallFits cfg build req provider counts user ↔
      req.sessionId.Utf8 ∧ e.message.Utf8 := by
  constructor
  · exact fun h => ⟨h.session, h.error hc e ha⟩
  · rintro ⟨session, message⟩
    refine ⟨session, fun _ llm hl => ?_, fun _ e' he => ?_⟩
    · cases ha.symm.trans hl
    · cases ha.symm.trans he
      exact message

/-- A call whose provider raises. -/
theorem accounts_called_error {e : ProviderError} {db' : Db} (h : db'.callLogs = db.callLogs)
    (ha : activeProvider build req provider req.messages = .error e) :
    (called cfg tick build req provider db' counts).Accounts req db ↔
      req.sessionId.Utf8 ∧ e.message.Utf8 := by
  rw [called, ha]
  cases e with
  | failed message => exact accounts_leave_iff (accounted_refuse (by decide) h)
  | missing_credentials message =>
      exact accounts_leave_iff (accounted_refuse (by decide) h)

/-- **Accounting.**  A call that passes the ownership check is accounted for exactly when what it
stores can be bound and what it answers rendered, and its schema name is null, empty or registered,
or no provider answers it: it is too large, matches an attack pattern, is over the quota, or the
provider raises. -/
theorem accounted_iff (hp : ownedProject db req.projectId user.id = .ok project) :
    (generate cfg tick build req provider db counts user).Accounts req db ↔
      CallFits cfg build req provider counts user ∧
        (req.texts.SchemaKnown ∨ ¬ Called cfg req.texts counts user ∨
          ∃ e, activeProvider build req provider req.messages = .error e) := by
  rw [generate, hp]
  dsimp only
  rcases generateFor_cases cfg tick build req provider db counts user with
    ⟨hc, statusCode, _, _, _, _, _, db', _, hs, hdb, he⟩ | ⟨hc, counts', he⟩
  · rw [he, accounts_leave_iff (accounted_refuse hs hdb)]
    constructor
    · rintro ⟨session, -⟩
      exact ⟨⟨session, fun h => absurd h hc, fun h => absurd h hc⟩, .inr (.inl hc)⟩
    · exact fun h => ⟨h.1.session, trivial⟩
  · have hdb : (inspected cfg tick req.texts db).callLogs = db.callLogs := callLogs_inspected db
    rw [he]
    cases ha : activeProvider build req provider req.messages with
    | error e =>
        rw [accounts_called_error hdb ha, callFits_error hc ha]
        exact (and_iff_left (.inr (.inr ⟨e, rfl⟩))).symm
    | ok llm =>
        rw [called, ha]
        dsimp only
        rw [accounts_answered_iff hdb, callFits_ok hc ha]
        refine and_congr Iff.rfl ⟨.inl, fun h => ?_⟩
        rcases h with known | uncalled | ⟨e, he⟩
        · exact known
        · exact absurd hc uncalled
        · cases he

/-- **A call that raises for its schema name is lost.**  It has called the provider, and the call
log is as it was. -/
theorem unaccounted {llm : LLMResponse} (hp : ownedProject db req.projectId user.id = .ok project)
    (hc : Called cfg req.texts counts user)
    (ha : activeProvider build req provider req.messages = .ok llm)
    (hk : ¬ req.texts.SchemaKnown) :
    (generate cfg tick build req provider db counts user).result = .error .unhandled ∧
      (generate cfg tick build req provider db counts user).sent = some req.messages ∧
      (generate cfg tick build req provider db counts user).db.callLogs = db.callLogs := by
  rw [generate, hp]
  dsimp only
  rcases generateFor_cases cfg tick build req provider db counts user with
    ⟨hn, -⟩ | ⟨-, counts', he⟩
  · exact absurd hc hn
  · rw [he, called, ha]
    dsimp only
    rw [answered_of_unknown llm _ counts' hk]
    exact ⟨rfl, rfl, (callLogs_scanned llm _).trans (callLogs_inspected db)⟩

/-- On texts, everything has an encoding. -/
theorem callFits_ofTexts {req : SentinelAI.GenerateRequest} {provider : SentinelAI.Provider}
    (h : ∀ llm, SentinelAI.activeProvider tick req provider req.messages = .ok llm →
      Fits llm.tokensIn ∧ Fits llm.tokensOut) :
    CallFits cfg (buildOfTexts tick.sdks) (.ofTexts req) (.ofTexts provider) counts user := by
  have asked : activeProvider (buildOfTexts tick.sdks) (.ofTexts req) (.ofTexts provider)
      (GenerateRequest.ofTexts req).messages =
        answerOfTexts (SentinelAI.activeProvider tick req provider req.messages) := by
    rw [activeProvider_ofTexts]
    exact ofTexts_map_ofText _ _
  refine ⟨PyStr.utf8_ofStr _, fun _ llm hl => ?_, fun _ e he => ?_⟩
  · obtain ⟨llm', ha, rfl⟩ := answerOfTexts_ok (asked.symm.trans hl)
    exact ⟨binds_ofTexts req (h llm' ha), fun _ => PyStr.utf8_ofStr _⟩
  · exact answerOfTexts_error (asked.symm.trans he)

end Call

end SentinelAI.Py

namespace SentinelAI
open Support

/-- A database in which user 1 owns project 1. -/
def ownerDb : Db :=
  { Db.empty with
    workspaces := Table.empty.insert ⟨0, 1, "w", 0⟩
    projects := Table.empty.insert ⟨0, 1, "p", "model", none, none, 0⟩ }

def owner : User := ⟨1, "a@b.co", [], 0⟩

theorem ownedProject_owner :
    ownedProject ownerDb 1 owner.id = .ok ⟨1, 1, "p", "model", none, none, 0⟩ := rfl

/-- A request of the owner, under a schema name. -/
def askAs (schemaName : Option Str) : GenerateRequest where
  sessionId := "s"
  operation := .playground
  messages := [⟨.user, "hello"⟩]
  schemaName
  groundingContext := none
  projectId := 1
  providerConfig := none

/-- A provider that says `hi`. -/
def sayHi : Provider := fun _ => .ok ⟨"hi", 1, 1, 5, "m", "groq"⟩

/-- The owner's call under a schema name. -/
def calledAs (schemaName : Option Str) : Py.Generated :=
  Py.generate .bare .zero (Py.buildOfTexts Tick.zero.sdks) (.ofTexts (askAs schemaName))
    (.ofTexts sayHi) ownerDb (fun _ => 0) owner

/-- Without a schema name the call is accounted for. -/
theorem accounted_iff_plain : (calledAs none).Accounts (.ofTexts (askAs none)) ownerDb := by
  refine (Py.accounted_iff ownedProject_owner).mpr
    ⟨Py.callFits_ofTexts fun llm told => ?_, .inl fun _ h => nomatch h⟩
  cases told
  decide

/-- A schema name that is not registered loses the call: the owner's request is within every limit,
the provider answers, and nothing is logged. -/
theorem not_accounted_nope :
    (ownedProject ownerDb (askAs (some "nope")).projectId owner.id).isOk = true ∧
    (calledAs (some "nope")).result = .error .unhandled ∧
    (calledAs (some "nope")).sent = some [⟨.user, .ofStr "hello"⟩] ∧
    (calledAs (some "nope")).db.callLogs.rows = [] ∧
    ¬ (calledAs (some "nope")).Accounts (.ofTexts (askAs (some "nope"))) ownerDb := by
  have hc : Called .bare (askAs (some "nope")) (fun _ => 0) owner :=
    ⟨by decide, by decide +kernel, by decide⟩
  have hk : ¬ (askAs (some "nope")).SchemaKnown := fun h => h "nope" rfl (by decide) (by decide)
  rw [← Py.texts_request (askAs (some "nope"))] at hc hk
  obtain ⟨result, sent, logs⟩ := @Py.unaccounted .bare .zero (Py.buildOfTexts Tick.zero.sdks)
    (.ofTexts (askAs (some "nope"))) (.ofTexts sayHi) ownerDb (fun _ => 0) owner _ _
    ownedProject_owner hc rfl hk
  exact ⟨rfl, result, sent, congrArg Table.rows logs, not_accounted_of_error result⟩

end SentinelAI

import Mathlib.Logic.Function.Basic
import SentinelAI.Proxy.Provider
import SentinelAI.Support.Runs

/-!
# Properties — GeminiKeys

Gemini calls that run at the same time.  Each takes two steps: it configures the library with its
key, and then it builds the model and generates the content.  The library has one key for the whole
process, so the second step goes out with the key that was configured last, whoever did it.

* `ownKeys_iff`: the calls of a run all go out with their own keys exactly when, at each of them,
  the last configuration was made with the key of the call.
* `answered_as_alone`: the calls that do are answered as they are alone.
* `not_ownKeys_interleaved`: two calls, one of which goes out with the key of the other.
-/

namespace SentinelAI
open Support

/-! ### The two steps -/

/-- A call of `GeminiProvider(api_key).generate(messages)`. -/
structure GeminiCall where
  apiKey : Option Str
  messages : List Message

/-- `self.api_key or settings.gemini_api_key` -/
def GeminiCall.key (sdks : Sdks) (c : GeminiCall) : Str := keyOr c.apiKey sdks.geminiApiKey

/-- The second step, under the key of the process. -/
def generateContent (sdks : Sdks) (key : Str) (messages : List Message) :
    Except ProviderError LLMResponse :=
  match sdks.gemini geminiModel key (geminiPrompt messages) with
  | .error e => .error (.failed ("gemini call failed: ".toList ++ e))
  | .ok r => .ok ⟨r.text, r.tokensIn, r.tokensOut, r.latencyMs, geminiModel, "gemini"⟩

/-- Alone, a call goes out with its own key. -/
theorem GeminiProvider_of_key {sdks : Sdks} {c : GeminiCall} (h : c.key sdks ≠ []) :
    GeminiProvider sdks c.apiKey c.messages = generateContent sdks (c.key sdks) c.messages :=
  if_neg h

/-- How far a call has come. -/
inductive GeminiPhase where
  | waiting
  /-- No key: `MissingCredentialsError` is raised before the library is imported. -/
  | refused
  | configured
  | called (key : Str) (answer : Except ProviderError LLMResponse)

variable {ι : Type*}

/-- The key of the process, and the phase of each call. -/
structure GeminiState (ι : Type*) where
  key : Option Str
  phase : ι → GeminiPhase

/-- The process has just been started. -/
def GeminiState.start : GeminiState ι := ⟨none, fun _ => .waiting⟩

inductive GeminiLabel (ι : Type*) where
  | refuse (i : ι)
  | configure (i : ι)
  | call (i : ι)

section Steps

variable [DecidableEq ι]

def GeminiState.moved (s : GeminiState ι) (i : ι) (p : GeminiPhase) : ι → GeminiPhase :=
  Function.update s.phase i p

/-- A step of one of the calls. -/
inductive GeminiStep (sdks : Sdks) (calls : ι → GeminiCall) :
    GeminiState ι → GeminiLabel ι → GeminiState ι → Prop where
  | refuse {s : GeminiState ι} {i : ι} (hw : s.phase i = .waiting)
      (hk : (calls i).key sdks = []) :
      GeminiStep sdks calls s (.refuse i) ⟨s.key, s.moved i .refused⟩
  | configure {s : GeminiState ι} {i : ι} (hw : s.phase i = .waiting)
      (hk : (calls i).key sdks ≠ []) :
      GeminiStep sdks calls s (.configure i) ⟨some ((calls i).key sdks), s.moved i .configured⟩
  | call {s : GeminiState ι} {i : ι} {key : Str} (hp : s.phase i = .configured)
      (hk : s.key = some key) :
      GeminiStep sdks calls s (.call i)
        ⟨s.key, s.moved i (.called key (generateContent sdks key (calls i).messages))⟩

end Steps

section Keys

variable (sdks : Sdks) (calls : ι → GeminiCall)

/-- Every call that went out did so with its own key. -/
def OwnKeys (s : GeminiState ι) : Prop :=
  ∀ i key answer, s.phase i = .called key answer → key = (calls i).key sdks

/-- Whenever a call goes out, the last configuration, `last` at the start, was made with its key. -/
def KeyStands : Option ι → List (GeminiLabel ι) → Prop
  | _, [] => True
  | last, .refuse _ :: as => KeyStands last as
  | _, .configure i :: as => KeyStands (some i) as
  | last, .call i :: as =>
      last.map (fun j => (calls j).key sdks) = some ((calls i).key sdks) ∧ KeyStands last as

end Keys

/-! ### One step -/

section Step

variable [DecidableEq ι] {sdks : Sdks} {calls : ι → GeminiCall} {s s' : GeminiState ι}

theorem GeminiState.moved_self (s : GeminiState ι) (i : ι) (p : GeminiPhase) :
    s.moved i p i = p :=
  Function.update_self _ _ _

theorem GeminiState.moved_ne (s : GeminiState ι) {i j : ι} (h : j ≠ i) (p : GeminiPhase) :
    s.moved i p j = s.phase j :=
  Function.update_of_ne h _ _

/-- A call that moves without going out leaves what went out. -/
theorem ownKeys_moved {i : ι} {p : GeminiPhase} (hi : ∀ key answer, s.phase i ≠ .called key answer)
    (hp : ∀ key answer, p ≠ .called key answer) (k : Option Str) :
    OwnKeys sdks calls ⟨k, s.moved i p⟩ ↔ OwnKeys sdks calls s := by
  constructor
  · intro h j key answer hj
    have hne : j ≠ i := by
      rintro rfl
      exact hi key answer hj
    exact h j key answer ((s.moved_ne hne p).trans hj)
  · intro h j key answer hj
    have hne : j ≠ i := by
      rintro rfl
      exact hp key answer ((s.moved_self j p).symm.trans hj)
    exact h j key answer ((s.moved_ne hne p).symm.trans hj)

/-- A call that goes out adds its own condition. -/
theorem ownKeys_called {i : ι} {key : Str} {answer : Except ProviderError LLMResponse}
    (hi : s.phase i = .configured) (k : Option Str) :
    OwnKeys sdks calls ⟨k, s.moved i (.called key answer)⟩ ↔
      OwnKeys sdks calls s ∧ key = (calls i).key sdks := by
  constructor
  · intro h
    refine ⟨fun j key' answer' hj => ?_, h i key answer (s.moved_self i _)⟩
    have hne : j ≠ i := by
      rintro rfl
      cases hi.symm.trans hj
    exact h j key' answer' ((s.moved_ne hne _).trans hj)
  · rintro ⟨h, hkey⟩ j key' answer' hj
    by_cases hji : j = i
    · subst hji
      cases (s.moved_self j _).symm.trans hj
      exact hkey
    · exact h j key' answer' ((s.moved_ne hji _).symm.trans hj)

/-- **A run** sends out its calls with their own keys exactly when they were the last configured. -/
theorem ownKeys_run {as : List (GeminiLabel ι)} (h : Run (GeminiStep sdks calls) s as s')
    (last : Option ι) (hk : s.key = last.map fun j => (calls j).key sdks) :
    OwnKeys sdks calls s' ↔ OwnKeys sdks calls s ∧ KeyStands sdks calls last as := by
  induction h generalizing last with
  | nil s => exact (and_iff_left trivial).symm
  | cons hs _ ih =>
      cases hs with
      | @refuse i hw _ =>
          rw [ih last hk, ownKeys_moved (by simp [hw]) (by simp)]
          rfl
      | @configure i hw _ =>
          rw [ih (some i) rfl, ownKeys_moved (by simp [hw]) (by simp)]
          rfl
      | @call i key hp hkey =>
          rw [ih last hk, ownKeys_called hp, and_assoc, KeyStands]
          refine and_congr Iff.rfl (and_congr ?_ Iff.rfl)
          rw [← hk, hkey, Option.some.injEq]

end Step

/-! ### Runs -/

section Runs

variable [DecidableEq ι] {sdks : Sdks} {calls : ι → GeminiCall}

/-- **The calls of a process** all go out with their own keys, in whatever order they take their
steps, exactly when each of them finds its own key configured last. -/
theorem ownKeys_iff {as : List (GeminiLabel ι)} {s : GeminiState ι}
    (h : Run (GeminiStep sdks calls) .start as s) :
    OwnKeys sdks calls s ↔ KeyStands sdks calls none as := by
  have start : OwnKeys sdks calls (.start : GeminiState ι) := fun _ _ _ h => nomatch h
  rw [ownKeys_run h none rfl]
  exact and_iff_right start

/-- What a call has of its own, at each phase: a key, and the answer to its own messages. -/
def Answered (sdks : Sdks) (c : GeminiCall) : GeminiPhase → Prop
  | .waiting => True
  | .refused => c.key sdks = []
  | .configured => c.key sdks ≠ []
  | .called key answer => c.key sdks ≠ [] ∧ answer = generateContent sdks key c.messages

/-- A step that takes a call to a phase that is right for it leaves every call so. -/
theorem answered_moved {s : GeminiState ι} {i : ι} {p : GeminiPhase}
    (hs : ∀ j, Answered sdks (calls j) (s.phase j)) (hp : Answered sdks (calls i) p) (j : ι) :
    Answered sdks (calls j) (s.moved i p j) := by
  by_cases hji : j = i
  · subst hji
    rw [s.moved_self]
    exact hp
  · rw [s.moved_ne hji]
    exact hs j

theorem answered_step {s s' : GeminiState ι} {a : GeminiLabel ι}
    (h : GeminiStep sdks calls s a s') (hs : ∀ j, Answered sdks (calls j) (s.phase j)) :
    ∀ j, Answered sdks (calls j) (s'.phase j) := by
  cases h with
  | refuse hw hk => exact answered_moved hs hk
  | configure hw hk => exact answered_moved hs hk
  | @call i key hp hk =>
      have hi := hs i
      rw [hp] at hi
      exact answered_moved hs ⟨hi, rfl⟩

/-- **A call that goes out with its own key** has the answer that it has alone. -/
theorem answered_as_alone {as : List (GeminiLabel ι)} {s : GeminiState ι}
    (h : Run (GeminiStep sdks calls) .start as s) (hown : OwnKeys sdks calls s) {i : ι} {key : Str}
    {answer : Except ProviderError LLMResponse} (hi : s.phase i = .called key answer) :
    answer = GeminiProvider sdks (calls i).apiKey (calls i).messages := by
  have start : ∀ j, Answered sdks (calls j) ((.start : GeminiState ι).phase j) := fun _ => trivial
  have hall := h.invariant (I := fun s => ∀ j, Answered sdks (calls j) (s.phase j))
    (fun _ _ _ => answered_step) start i
  rw [hi] at hall
  obtain ⟨hk, hanswer⟩ := hall
  rw [GeminiProvider_of_key hk, hanswer, hown i key answer hi]

end Runs

/-! ### Two users -/

/-- A service that answers with the key it was asked under. -/
def echoKey : Sdks :=
  ⟨fun _ key _ => .ok ⟨key, 0, 0, 0⟩, fun _ key _ => .ok ⟨key, 0, 0, 0⟩, [], []⟩

/-- Two users, each with a key of their own. -/
def twoKeys : Bool → GeminiCall
  | false => ⟨some "ann", [⟨.user, "hello"⟩]⟩
  | true => ⟨some "bob", [⟨.user, "hello"⟩]⟩

/-- Ann's call configures the library, then Bob's does, and then Ann's goes out. -/
def bobBetween : List (GeminiLabel Bool) := [.configure false, .configure true, .call false]

/-- What Ann's call leaves: it went out with Bob's key. -/
def underBob : GeminiState Bool :=
  ⟨some "bob", fun b => if b then .configured
    else .called "bob" (generateContent echoKey "bob" [⟨.user, "hello"⟩])⟩

theorem run_bobBetween : Run (GeminiStep echoKey twoKeys) .start bobBetween underBob := by
  let s₀ : GeminiState Bool := .start
  let s₁ : GeminiState Bool := ⟨some "ann", s₀.moved false .configured⟩
  let s₂ : GeminiState Bool := ⟨some "bob", s₁.moved true .configured⟩
  have h₁ : GeminiStep echoKey twoKeys s₀ (.configure false) s₁ := .configure rfl (by decide)
  have h₂ : GeminiStep echoKey twoKeys s₁ (.configure true) s₂ := .configure rfl (by decide)
  have h₃ : GeminiStep echoKey twoKeys s₂ (.call false) underBob := by
    have hs : underBob = ⟨some "bob", s₂.moved false
        (.called "bob" (generateContent echoKey "bob" (twoKeys false).messages))⟩ :=
      congrArg (GeminiState.mk _) (funext fun b => by cases b <;> rfl)
    exact hs ▸ .call rfl rfl
  exact .cons h₁ (.cons h₂ (.one h₃))

/-- **A call goes out with the key of another** that runs at the same time. -/
theorem not_ownKeys_interleaved :
    Run (GeminiStep echoKey twoKeys) .start bobBetween underBob ∧
      ¬ OwnKeys echoKey twoKeys underBob := by
  refine ⟨run_bobBetween, fun h => ?_⟩
  have key : ("bob".toList : Str) = "ann" := h false _ _ rfl
  exact absurd key (by decide)

/-- Ann's call is over before Bob's begins. -/
def inTurn : List (GeminiLabel Bool) :=
  [.configure false, .call false, .configure true, .call true]

/-- What calls in turn leave. -/
def bothAnswered : GeminiState Bool :=
  ⟨some "bob", fun b => .called ((twoKeys b).key echoKey)
    (generateContent echoKey ((twoKeys b).key echoKey) (twoKeys b).messages)⟩

theorem run_inTurn : Run (GeminiStep echoKey twoKeys) .start inTurn bothAnswered := by
  let sent (b : Bool) : GeminiPhase := .called ((twoKeys b).key echoKey)
    (generateContent echoKey ((twoKeys b).key echoKey) (twoKeys b).messages)
  let s₀ : GeminiState Bool := .start
  let s₁ : GeminiState Bool := ⟨some "ann", s₀.moved false .configured⟩
  let s₂ : GeminiState Bool := ⟨some "ann", s₁.moved false (sent false)⟩
  let s₃ : GeminiState Bool := ⟨some "bob", s₂.moved true .configured⟩
  have h₁ : GeminiStep echoKey twoKeys s₀ (.configure false) s₁ := .configure rfl (by decide)
  have h₂ : GeminiStep echoKey twoKeys s₁ (.call false) s₂ := .call rfl rfl
  have h₃ : GeminiStep echoKey twoKeys s₂ (.configure true) s₃ := .configure rfl (by decide)
  have h₄ : GeminiStep echoKey twoKeys s₃ (.call true) bothAnswered := by
    have hs : bothAnswered = ⟨some "bob", s₃.moved true (sent true)⟩ :=
      congrArg (GeminiState.mk _) (funext fun b => by cases b <;> rfl)
    exact hs ▸ .call rfl rfl
  exact .cons h₁ (.cons h₂ (.cons h₃ (.one h₄)))

/-- Both orders: in turn the calls go out with their own keys, and interleaved they do not. -/
theorem ownKeys_iff_orders :
    OwnKeys echoKey twoKeys bothAnswered ∧ ¬ OwnKeys echoKey twoKeys underBob := by
  refine ⟨(ownKeys_iff run_inTurn).mpr ⟨rfl, rfl, trivial⟩, fun h => ?_⟩
  have hk := ((ownKeys_iff run_bobBetween).mp h).1
  exact absurd hk (by decide)

end SentinelAI

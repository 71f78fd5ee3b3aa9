import SentinelAI.Properties.Accounts

/-!
# Properties — Emails

The emails of the accounts.  The `$` of the pattern that checks an email also stands before a final
newline: what the pattern accepts is an email, or an email and a newline, and what is stored is its
lowercase, with the newline.

* `emailMatches_iff`: the language of the pattern.
* `wellFormed_lower_iff`: what is stored of an accepted email is well formed unless it ends in a
  newline.
* `emails_run_iff`: along a run the stored emails are well formed and unique exactly when no
  sign-up that goes through ends in a newline.
-/

namespace SentinelAI
open Support

/-- The part of the domain before some dot is not empty, and neither is the part after it. -/
def InnerDot (domain : Str) : Prop := ∃ x y, domain = x ++ '.' :: y ∧ x ≠ [] ∧ y ≠ []

/-- **A well-formed email.** -/
structure WellFormedEmail (U : Ucd) (email : Str) : Prop where
  lowercase : U.lower email = email
  no_space : ∀ c ∈ email, isSpace c = false
  /-- There is one `@`. -/
  parts : ∃ localPart domain, email = localPart ++ '@' :: domain ∧
    '@' ∉ localPart ∧ '@' ∉ domain ∧ localPart ≠ [] ∧ InnerDot domain

/-- The stored emails are well formed, and tell the users apart when lowercased and trimmed. -/
structure WellFormedEmails (U : Ucd) (users : List User) : Prop where
  formed : ∀ user ∈ users, WellFormedEmail U user.email
  unique : ∀ user ∈ users, ∀ other ∈ users,
    strip (U.lower user.email) = strip (U.lower other.email) → user = other

/-- Lowercasing and trimming leave a well-formed email as it is. -/
theorem WellFormedEmail.strip_lower {U : Ucd} {email : Str} (h : WellFormedEmail U email) :
    strip (U.lower email) = email := by
  rw [h.lowercase]
  exact strip_eq_self ⟨fun c hc => h.no_space c (List.mem_of_head? hc),
    fun c hc => h.no_space c (List.mem_of_getLast? hc)⟩

/-! ### The pattern -/

/-- `[^@\s]+` -/
def EmailWord (w : Str) : Prop := w ≠ [] ∧ ∀ c ∈ w, emailChar c = true

/-- An email, and then `tail`. -/
def EmailThen (tail v : Str) : Prop :=
  ∃ x y z, EmailWord x ∧ EmailWord y ∧ EmailWord z ∧ v = x ++ '@' :: (y ++ '.' :: (z ++ tail))

theorem match_EMAIL_RE_iff {z z' : Place} :
    EMAIL_RE.Match z z' ↔ ∃ x y t, EmailWord x ∧ EmailWord y ∧ EmailWord t ∧
      z.Reads (x ++ ('@' :: (y ++ '.' :: t))) z' := by
  unfold EMAIL_RE
  simp only [Re.cat, Re.match_seq_iff, Re.match_chr_iff, Re.match_eps_iff, Re.match_plus_set_iff]
  constructor
  · rintro ⟨z₁, ⟨x, hx, hx', h₁⟩, z₂, h₂, z₃, ⟨y, hy, hy', h₃⟩, z₄, h₄, z₅, ⟨t, ht, ht', h₅⟩, rfl⟩
    exact ⟨x, y, t, ⟨hx, hx'⟩, ⟨hy, hy'⟩, ⟨ht, ht'⟩, h₁.trans (h₂.trans (h₃.trans (h₄.trans h₅)))⟩
  · rintro ⟨x, y, t, ⟨hx, hx'⟩, ⟨hy, hy'⟩, ⟨ht, ht'⟩, h⟩
    obtain ⟨z₁, h₁, h⟩ := Place.reads_append_iff.mp h
    rw [← List.singleton_append] at h
    obtain ⟨z₂, h₂, h⟩ := Place.reads_append_iff.mp h
    obtain ⟨z₃, h₃, h⟩ := Place.reads_append_iff.mp h
    rw [← List.singleton_append] at h
    obtain ⟨z₄, h₄, h⟩ := Place.reads_append_iff.mp h
    exact ⟨z₁, ⟨x, hx, hx', h₁⟩, z₂, h₂, z₃, ⟨y, hy, hy', h₃⟩, z₄, h₄, z', ⟨t, ht, ht', h⟩, rfl⟩

/-- **The language of the pattern**: an email, or an email and a newline. -/
theorem emailMatches_iff {v : Str} :
    emailMatches v = true ↔ EmailThen [] v ∨ EmailThen ['\n'] v := by
  have ends_iff (tail : Str) : (∃ z, EMAIL_RE.Match ⟨[], v⟩ z ∧ z.after = tail) ↔
      EmailThen tail v := by
    simp only [match_EMAIL_RE_iff]
    constructor
    · rintro ⟨z, ⟨x, y, t, hx, hy, ht, ha, -⟩, rfl⟩
      refine ⟨x, y, t, hx, hy, ht, ?_⟩
      dsimp only at ha
      rw [ha]
      simp only [List.append_assoc, List.cons_append]
    · rintro ⟨x, y, t, hx, hy, ht, rfl⟩
      refine ⟨⟨(x ++ '@' :: (y ++ '.' :: t)).reverse ++ [], tail⟩, ⟨x, y, t, hx, hy, ht, ?_, rfl⟩,
        rfl⟩
      simp only [List.append_assoc, List.cons_append]
  unfold emailMatches
  rw [List.any_eq_true, ← ends_iff, ← ends_iff]
  simp only [Re.mem_ends_iff, Bool.or_eq_true, beq_iff_eq, and_or_left, exists_or]

/-! ### Lowercase -/

section Lower

variable {U : Ucd}

/-- The lowercase of a word is a word. -/
theorem EmailWord.lower {w w' : Str} (h : EmailWord w) (hw : U.LowerOf w w') : EmailWord w' := by
  refine ⟨hw.ne_nil h.1, fun d hd => ?_⟩
  obtain ⟨c, hc, pre, post, hd⟩ := hw.mem d hd
  have hchar := h.2 c hc
  unfold emailChar at hchar ⊢
  rw [Bool.and_eq_true, bne_iff_ne] at hchar ⊢
  refine ⟨fun he => hchar.1 ?_, by rw [U.isSpace_of_mem_lowerChar hd]; exact hchar.2⟩
  -- an `@` comes from nothing else
  rw [he] at hd
  exact (U.eq_of_mem_lowerChar hd (by decide) (by decide)).symm

/-- The lowercase of an email is one, and what follows it stays. -/
theorem EmailThen.lower {tail v : Str} (h : EmailThen tail v)
    (ht : ∀ pre, U.lowerFrom pre tail = tail) : EmailThen tail (U.lower v) := by
  obtain ⟨x, y, z, hx, hy, hz, rfl⟩ := h
  unfold Ucd.lower
  obtain ⟨x', hx', he⟩ := U.lowerFrom_append [] x ('@' :: (y ++ '.' :: (z ++ tail)))
  obtain ⟨y', hy', he'⟩ := U.lowerFrom_append ('@' :: (x.reverse ++ [])) y ('.' :: (z ++ tail))
  obtain ⟨z', hz', he''⟩ :=
    U.lowerFrom_append ('.' :: (y.reverse ++ '@' :: (x.reverse ++ []))) z tail
  refine ⟨x', y', z', hx.lower hx', hy.lower hy', hz.lower hz', ?_⟩
  rw [he, Ucd.lowerFrom, he', Ucd.lowerFrom, he'', ht]
  rfl

theorem EmailWord.no_space {w : Str} (h : EmailWord w) : ∀ c ∈ w, isSpace c = false := by
  intro c hc
  have hchar := h.2 c hc
  unfold emailChar at hchar
  rw [Bool.and_eq_true, Bool.not_eq_true'] at hchar
  exact hchar.2

theorem EmailWord.no_at {w : Str} (h : EmailWord w) : '@' ∉ w := by
  intro hc
  have hchar := h.2 '@' hc
  revert hchar
  decide

/-- An email in lowercase is well formed. -/
theorem EmailThen.wellFormed {email : Str} (h : EmailThen [] email) (hl : U.lower email = email) :
    WellFormedEmail U email := by
  obtain ⟨x, y, z, hx, hy, hz, rfl⟩ := h
  rw [List.append_nil] at hl ⊢
  refine ⟨hl, fun c hc => ?_, x, y ++ '.' :: z, rfl, hx.no_at, fun hc => ?_, hx.1,
    y, z, rfl, hy.1, hz.1⟩
  · simp only [List.mem_append, List.mem_cons] at hc
    rcases hc with hc | rfl | hc | rfl | hc
    · exact hx.no_space c hc
    · decide
    · exact hy.no_space c hc
    · decide
    · exact hz.no_space c hc
  · simp only [List.mem_append, List.mem_cons] at hc
    rcases hc with hc | hc | hc
    · exact hy.no_at hc
    · cases hc
    · exact hz.no_at hc

/-- The last character of an email is no newline, but for one that follows it. -/
theorem EmailThen.getLast? {tail v : Str} (h : EmailThen tail v) (ht : tail = [] ∨ tail = ['\n']) :
    v.getLast? = some '\n' ↔ tail = ['\n'] := by
  obtain ⟨x, y, z, hx, hy, hz, rfl⟩ := h
  have regroup : x ++ '@' :: (y ++ '.' :: (z ++ tail)) =
      (x ++ '@' :: (y ++ ['.'])) ++ z ++ tail := by
    simp only [List.append_assoc, List.cons_append, List.nil_append]
  rw [regroup]
  rcases ht with rfl | rfl
  · refine iff_of_false (fun hlast => ?_) (List.cons_ne_nil _ _).symm
    rw [List.append_nil, List.getLast?_append_of_ne_nil _ hz.1] at hlast
    cases hz.no_space _ (List.mem_of_getLast? hlast)
  · exact iff_of_true List.getLast?_concat rfl

/-- **What is stored** of an email that the pattern accepts is well formed unless it ends in a
newline. -/
theorem wellFormed_lower_iff {v : Str} (h : emailMatches v = true) :
    WellFormedEmail U (U.lower v) ↔ v.getLast? ≠ some '\n' := by
  rcases emailMatches_iff.mp h with hv | hv
  · refine iff_of_true ((hv.lower fun _ => rfl).wellFormed (U.lower_lower_eq v)) fun hn => ?_
    cases (hv.getLast? (.inl rfl)).mp hn
  · refine iff_of_false (fun hw => ?_) (not_not.mpr ((hv.getLast? (.inr rfl)).mpr rfl))
    obtain ⟨x, y, z, -, -, -, he⟩ := hv.lower (U := U) fun _ => rfl
    have there : '\n' ∈ U.lower v := by
      rw [he]
      simp
    cases hw.no_space _ there

end Lower

/-! ### Runs -/

section Runs

variable {U : Ucd}

/-- A user with a new email keeps the emails well formed exactly when the email is. -/
theorem wellFormedEmails_append_iff {users : List User} {user : User}
    (h : WellFormedEmails U users) (hn : ∀ other ∈ users, other.email ≠ user.email) :
    WellFormedEmails U (users ++ [user]) ↔ WellFormedEmail U user.email := by
  constructor
  · exact fun h' => h'.formed user (List.mem_append_right _ (List.mem_singleton_self user))
  · intro hw
    have formed : ∀ other ∈ users ++ [user], WellFormedEmail U other.email := by
      intro other ho
      rcases List.mem_append.mp ho with ho | ho
      · exact h.formed other ho
      · rwa [List.mem_singleton.mp ho]
    refine ⟨formed, fun other ho other' ho' he => ?_⟩
    rw [(formed other ho).strip_lower, (formed other' ho').strip_lower] at he
    rcases List.mem_append.mp ho with ho | ho
    · rcases List.mem_append.mp ho' with ho' | ho'
      · refine h.unique other ho other' ho' ?_
        rw [he]
      · rw [List.mem_singleton.mp ho'] at he
        exact absurd he (hn other ho)
    · rcases List.mem_append.mp ho' with ho' | ho'
      · rw [List.mem_singleton.mp ho] at he
        exact absurd he.symm (hn other' ho')
      · rw [List.mem_singleton.mp ho, List.mem_singleton.mp ho']

/-- A step of a process whose Python knows the characters of `U`. -/
def StepUnder (U : Ucd) (w : World) (a : Config × Tick × Happening) (w' : World) : Prop :=
  a.1.U = U ∧ ConfiguredStep w a w'

/-- A sign-up that goes through, where the step is one, does not end its email in a newline. -/
def NoFinalNewline (w : World) (a : Config × Tick × Happening) (_ : World) : Prop :=
  ∀ s : Attempt, a.2.2 = .request s.signup → s.GoesThrough a.1 a.2.1 w →
    s.body.email.getLast? ≠ some '\n'

/-- What passes the checks of a sign-up matches the pattern. -/
theorem emailMatches_of_checked {body : Credentials} (h : signupErrors body = []) :
    emailMatches body.email = true := by
  unfold signupErrors at h
  by_contra hm
  dsimp only at h
  rw [if_neg hm] at h
  cases List.append_eq_nil_iff.mp h |>.1

/-- A sign-up that goes through keeps the emails well formed exactly when its own does not end in a
newline. -/
theorem wellFormedEmails_signup_iff {cfg : Config} {tick : Tick} {w : World} {s : Attempt}
    (hU : cfg.U = U) (h : WellFormedEmails U w.db.users.rows) (hs : s.GoesThrough cfg tick w) :
    WellFormedEmails U (handle cfg tick w s.signup).2.db.users.rows ↔
      s.body.email.getLast? ≠ some '\n' := by
  obtain ⟨user, he, hrows⟩ := users_signup_of_goesThrough hs
  have free := hs.free
  rw [← he] at free
  rw [handle_signup]
  dsimp only
  rw [hrows, wellFormedEmails_append_iff h free, he, hU]
  exact wellFormed_lower_iff (emailMatches_of_checked hs.checked)

/-- One step keeps the emails well formed exactly when it adds none that ends in a newline. -/
theorem wellFormedEmails_step_iff (w : World) (a : Config × Tick × Happening) (w' : World)
    (hs : StepUnder U w a w') (h : WellFormedEmails U w.db.users.rows) :
    WellFormedEmails U w'.db.users.rows ↔ NoFinalNewline w a w' := by
  obtain ⟨cfg, tick, happening⟩ := a
  obtain ⟨hU, hs⟩ := hs
  rcases step_cases hs with ⟨r, rfl, rfl⟩ | ⟨hr, _, he⟩
  · constructor
    · rintro h' s ⟨⟩ goes
      exact (wellFormedEmails_signup_iff hU h goes).mp h'
    · intro hn
      rcases users_handle_cases cfg tick w r with ⟨s, rfl, goes⟩ | same
      · exact (wellFormedEmails_signup_iff hU h goes).mpr (hn s rfl goes)
      · dsimp only
        rwa [same]
  · refine iff_of_true ?_ fun s hrequest => absurd hrequest (hr _)
    rw [he]
    exact h

/-- **Emails.**  In every state of a run from the empty database the stored emails are well formed,
and tell the users apart, exactly when no sign-up of the run that goes through ends its email in a
newline. -/
theorem emails_run_iff (U : Ucd) {as : List (Config × Tick × Happening)} {w : World} :
    Run.All (StepUnder U) (fun _ _ w' => WellFormedEmails U w'.db.users.rows) .empty as w ↔
      Run.All (StepUnder U) NoFinalNewline .empty as w :=
  Run.All.within_iff (I := fun w : World => WellFormedEmails U w.db.users.rows)
    wellFormedEmails_step_iff
    ⟨fun _ h => (List.not_mem_nil h).elim, fun _ h => (List.not_mem_nil h).elim⟩

end Runs

/-! ### An email and a newline -/

theorem run_under {cfg : Config} {w w' : World} {hs : List (Tick × Happening)}
    (h : Run (Step cfg) w hs w') : Run (StepUnder cfg.U) w (hs.map (cfg, ·)) w' :=
  h.map (cfg, ·) fun _ _ _ hs => ⟨rfl, hs⟩

/-- Two people sign up, under emails that look the same. -/
def signingUpTwice : List Request :=
  [⟨"", none, .unguarded (.signup ⟨"a@b.co", "12345678"⟩)⟩,
    ⟨"", none, .unguarded (.signup ⟨"A@b.co\n", "87654321"⟩)⟩]

/-- **Two accounts** have the same email, but for a newline that one of them has. -/
theorem not_emails_newline :
    (serveAll .demo .zero .empty signingUpTwice).db.users.rows.map (·.email) =
      ["a@b.co".toList, "a@b.co\n".toList] ∧
    ¬ ∀ as w, Run (StepUnder .ascii) .empty as w → WellFormedEmails .ascii w.db.users.rows := by
  have emails : (serveAll .demo .zero .empty signingUpTwice).db.users.rows.map (·.email) =
      ["a@b.co".toList, "a@b.co\n".toList] := by decide +kernel
  refine ⟨emails, fun h => ?_⟩
  have formed := h _ _ (run_under (@run_serveAll .demo .zero signingUpTwice .empty))
  obtain ⟨_, _, hrows, _, hrest⟩ := List.map_eq_cons_iff.mp emails
  obtain ⟨user, _, rfl, hu, -⟩ := List.map_eq_cons_iff.mp hrest
  have newline : '\n' ∈ user.email := by
    rw [hu]
    decide
  cases (formed.formed user (by simp [hrows])).no_space _ newline

end SentinelAI

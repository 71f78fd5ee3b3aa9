import SentinelAI.Proxy.Routes
import SentinelAI.Support.JsonTexts
import SentinelAI.Support.Occurrence

/-!
# Properties — Scrubbing

What is left of the configured keys in a scrubbed value.  `scrub` replaces the keys in every text
that stands as a value, and then masks personal data; it leaves alone what stands under the name of
a run id, and the keys of dictionaries.

* `not_infix_scrubText`: a configured key that is apart from what `scrub` puts in occurs in no text
  that was scrubbed.
* `scrub_censor`: scrubbing forgets whether the keys had been replaced before.
* `keysScrubbed`: what both mean for values, and for the reports.
-/

namespace SentinelAI
open Support Support.Json

section Scrub

variable (cfg : Config)

/-! ### One text -/

/-- What `scrub` puts in. -/
inductive IsMask (U : Ucd) : Str → Prop where
  | configured : IsMask U "[REDACTED_CONFIGURED_KEY]".toList
  | pattern (p : PiiPattern) : IsMask U (placeholder (upperAscii p.name))
  | entity {e : Str} (h : U.lower e ∈ PRESIDIO_PII_ENTITY_TYPES) :
      IsMask U (placeholder (upperAscii e))

/-- The key shares no position with a mask. -/
def ApartFromMasks (secret : Str) : Prop := ∀ m, IsMask cfg.U m → Apart secret m

/-- A text with the configured keys replaced. -/
def censorText (s : Str) : Str :=
  (configuredSecrets cfg.settings).foldl
    (fun v secret => replaceFrom secret "[REDACTED_CONFIGURED_KEY]" 0 v) s

theorem scrubText_eq (s : Str) :
    scrubText cfg s = (redactPii cfg.U cfg.analyzer (censorText cfg s)).1 := rfl

variable {cfg}

theorem isMask_of_mem_detected {U : Ucd} {analyzer : Analyzer} {text : Str} {s : Span Str}
    (h : s ∈ detected U analyzer text) : IsMask U (placeholder s.label) := by
  rcases mem_detected.mp h with ⟨p, -, hl⟩ | ⟨r, hr, rfl⟩
  · rw [hl]
    exact .pattern p
  · cases analyzer with
    | none => cases hr
    | some analyze => exact .entity (of_decide_eq_true (List.mem_filter.mp hr).2)

/-- Replacing the keys one after the other leaves none of them. -/
theorem not_infix_censorText {secret : Str} (h : secret ∈ configuredSecrets cfg.settings)
    (hm : ApartFromMasks cfg secret) (s : Str) : ¬secret <:+: censorText cfg s := by
  have apart := hm _ .configured
  have kept : ∀ (l : List Str) (s : Str), ¬secret <:+: s → ¬secret <:+: l.foldl
      (fun v secret => replaceFrom secret "[REDACTED_CONFIGURED_KEY]" 0 v) s := by
    intro l
    induction l with
    | nil => exact fun _ hs => hs
    | cons k l ih => exact fun s hs => ih _ (not_infix_replaceFrom apart 0 hs)
  have all : ∀ (l : List Str) (s : Str), secret ∈ l → ¬secret <:+: l.foldl
      (fun v secret => replaceFrom secret "[REDACTED_CONFIGURED_KEY]" 0 v) s := by
    intro l
    induction l with
    | nil => exact fun _ hl => absurd hl List.not_mem_nil
    | cons k l ih =>
        intro s hl
        rcases List.mem_cons.mp hl with rfl | hl
        · exact kept l _ (not_infix_replaceFrom_self apart 0 s)
        · exact ih _ hl
  exact all _ s h

/-- **A scrubbed text** has no occurrence of a configured key. -/
theorem not_infix_scrubText {secret : Str} (h : secret ∈ configuredSecrets cfg.settings)
    (hm : ApartFromMasks cfg secret) (s : Str) : ¬secret <:+: scrubText cfg s := by
  rw [scrubText_eq, redactPii_eq]
  refine Span.not_infix_out (fun k hk => hm _ ?_) (not_infix_censorText h hm s)
  exact isMask_of_mem_detected (Span.mem_of_mem_kept hk)

/-- Where the keys do not occur, nothing is replaced. -/
theorem censorText_eq_self {s : Str} (h : ∀ secret ∈ configuredSecrets cfg.settings,
    ¬secret <:+: s) : censorText cfg s = s := by
  have all : ∀ l : List Str, (∀ secret ∈ l, ¬secret <:+: s) → l.foldl
      (fun v secret => replaceFrom secret "[REDACTED_CONFIGURED_KEY]" 0 v) s = s := by
    intro l
    induction l with
    | nil => exact fun _ => rfl
    | cons k l ih =>
        intro hl
        obtain ⟨hk, hl⟩ := List.forall_mem_cons.mp hl
        rw [List.foldl_cons, replaceFrom_eq_self hk, ih hl]
  exact all _ h

variable (cfg) in
/-- Every configured key is apart from the masks. -/
def KeysApart : Prop := ∀ secret ∈ configuredSecrets cfg.settings, ApartFromMasks cfg secret

theorem censorText_censorText (h : KeysApart cfg) (s : Str) :
    censorText cfg (censorText cfg s) = censorText cfg s :=
  censorText_eq_self fun secret hs => not_infix_censorText hs (h secret hs) s

theorem scrubText_censorText (h : KeysApart cfg) (s : Str) :
    scrubText cfg (censorText cfg s) = scrubText cfg s := by
  rw [scrubText_eq, censorText_censorText h, ← scrubText_eq]

/-! ### Values -/

variable (cfg) in
/-- A text that stands under `key`, scrubbed. -/
def scrubAt (key : Option Str) (s : Str) : Str :=
  if key.any (· ∈ ID_KEYS) then s else scrubText cfg s

variable (cfg) in
/-- A text that stands under `key`, with the configured keys replaced. -/
def censorAt (key : Option Str) (s : Str) : Str :=
  if key.any (· ∈ ID_KEYS) then s else censorText cfg s

variable (cfg) in
/-- A value that stands under `key`, with the configured keys replaced in the texts that `scrub`
changes. -/
def censor (key : Option Str) (v : Json) : Json := v.mapStr (censorAt cfg) key

theorem scrubItems_eq (items : List (Str × Json)) :
    scrubItems cfg items = items.map fun kv => (kv.1, scrub cfg (some kv.1) kv.2) := by
  induction items with
  | nil => rfl
  | cons kv items ih => rw [scrubItems, ih, List.map_cons]

theorem scrub_obj (key : Option Str) (items : List (Str × Json)) : scrub cfg key (.obj items) =
    .obj (items.map fun kv => (kv.1, scrub cfg (some kv.1) kv.2)) := by
  rw [scrub, scrubItems_eq]

theorem scrubElems_eq (xs : List Json) : scrubElems cfg xs = xs.map (scrub cfg none) := by
  induction xs with
  | nil => rfl
  | cons x xs ih => rw [scrubElems, ih, List.map_cons]

theorem scrub_arr (key : Option Str) (xs : List Json) :
    scrub cfg key (.arr xs) = .arr (xs.map (scrub cfg none)) := by
  rw [scrub, scrubElems_eq]

/-- Scrubbing changes the texts of a value one by one. -/
theorem scrub_eq (key : Option Str) (v : Json) : scrub cfg key v = v.mapStr (scrubAt cfg) key := by
  induction v using Json.induct generalizing key with
  | arr xs ih =>
      rw [scrub_arr, mapStr, mapElems_eq]
      exact congrArg _ (List.map_congr_left fun x hx => ih x hx none)
  | obj items ih =>
      rw [scrub_obj, mapStr, mapItems_eq]
      exact congrArg _ (List.map_congr_left fun kv hkv => congrArg _ (ih kv hkv (some kv.1)))
  | str s => rfl
  | _ => rfl

/-- **Scrubbing forgets** whether the keys had been replaced before. -/
theorem scrub_censor (h : KeysApart cfg) (key : Option Str) (v : Json) :
    scrub cfg key (censor cfg key v) = scrub cfg key v := by
  rw [scrub_eq, scrub_eq, censor, mapStr_mapStr]
  congr 1
  funext k s
  unfold scrubAt censorAt
  split
  · rfl
  · exact scrubText_censorText h s

theorem not_infix_of_textAt_scrub (h : KeysApart cfg) {v : Json} {t : Str} {k : Option Str}
    (ht : TextAt t (.under k) none (scrub cfg none v)) (hk : ¬k.any (· ∈ ID_KEYS) = true)
    {secret : Str} (hs : secret ∈ configuredSecrets cfg.settings) : ¬secret <:+: t := by
  rw [scrub_eq] at ht
  obtain ⟨s, -, rfl⟩ := exists_of_textAt_mapStr ht
  rw [scrubAt, if_neg hk]
  exact not_infix_scrubText hs (h secret hs) s

theorem not_infix_of_textAt_censor (h : KeysApart cfg) {key : Option Str} {v : Json} {t : Str}
    {k : Option Str} (ht : TextAt t (.under k) key (censor cfg key v))
    (hk : ¬k.any (· ∈ ID_KEYS) = true) {secret : Str}
    (hs : secret ∈ configuredSecrets cfg.settings) : ¬secret <:+: t := by
  obtain ⟨s, -, rfl⟩ := exists_of_textAt_mapStr ht
  rw [censorAt, if_neg hk]
  exact not_infix_censorText hs (h secret hs) s

/-! ### Reports -/

variable (cfg) in
/-- A finding in which the configured keys were replaced before it was stored. -/
def Finding.censored (f : Finding) : Finding :=
  { f with
    title := censorText cfg f.title
    description := censorText cfg f.description
    evidence := censor cfg (some "evidence".toList) f.evidence
    reproduction := censor cfg (some "reproduction".toList) f.reproduction }

variable (cfg) in
/-- A database in whose findings the configured keys were replaced. -/
def Db.censored (db : Db) : Db :=
  { db with findings := db.findings.updateAll (·.censored cfg) fun _ => rfl }

theorem of_censored (db : Db) (projectId : Int) :
    of (db.censored cfg).findings projectId =
      (of db.findings projectId).map (·.censored cfg) := by
  change (db.findings.rows.map _).filter _ = _
  rw [List.filter_map]
  rfl

/-- What the reports read of a database with the keys replaced. -/
theorem reportRows_censored (db : Db) (projectId : Int) :
    reportRows (db.censored cfg) projectId =
      { reportRows db projectId with
        findings := (of db.findings projectId).map (·.censored cfg) } := by
  rw [reportRows, of_censored]
  rfl

/-- A text under a key that is not a run id's is scrubbed to the same, with the keys replaced. -/
theorem scrub_text (h : KeysApart cfg) (key : Str) (hk : key ∉ ID_KEYS) (s : Str) :
    scrub cfg (some key) (.str (censorText cfg s)) = scrub cfg (some key) (.str s) := by
  have hk : ¬(some key).any (· ∈ ID_KEYS) = true := fun h => hk (of_decide_eq_true h)
  rw [scrub, scrub, if_neg hk, if_neg hk, scrubText_censorText h]

theorem scrub_keyFinding (h : KeysApart cfg) (project : Option Project) (f : Finding) :
    scrub cfg none (keyFindingToDict project (f.censored cfg)) =
      scrub cfg none (keyFindingToDict project f) := by
  have title := scrub_text h "title".toList (by decide) f.title
  rw [keyFindingToDict, keyFindingToDict, scrub_obj, scrub_obj]
  simp only [List.map_cons, List.map_nil, Finding.censored, title]

theorem scrub_reportedFinding (h : KeysApart cfg) (project : Option Project) (f : Finding) :
    scrub cfg none (reportedFindingToDict project (f.censored cfg)) =
      scrub cfg none (reportedFindingToDict project f) := by
  have title := scrub_text h "title".toList (by decide) f.title
  have description := scrub_text h "description".toList (by decide) f.description
  rw [reportedFindingToDict, reportedFindingToDict, scrub_obj, scrub_obj]
  simp only [List.map_cons, List.map_nil, Finding.censored, title, description, scrub_censor h]

theorem keyFindings_censored (l : List Finding) :
    keyFindings (l.map (·.censored cfg)) = (keyFindings l).map (·.censored cfg) := by
  rw [keyFindings, keyFindings, List.map_take]
  exact congrArg _ (List.map_insertionSort _ _ (·.censored cfg) l fun _ _ _ _ => Iff.rfl).symm

theorem executive_censored (h : KeysApart cfg) (db : Db) (since until' : Option Time)
    (projectId : Int) (t : Table TestRunResult) (agents : List AgentProfile) (now : Time) :
    scrub cfg none (executiveReport (reportRows (db.censored cfg) projectId) since until' t agents
        now) =
      scrub cfg none (executiveReport (reportRows db projectId) since until' t agents now) := by
  have shown : scrub cfg none ∘ keyFindingToDict (db.projects.find? projectId) ∘
      (fun f => f.censored cfg) = scrub cfg none ∘ keyFindingToDict (db.projects.find? projectId) :=
    funext (scrub_keyFinding h _)
  rw [reportRows_censored, executiveReport, executiveReport, scrub_obj, scrub_obj]
  simp only [List.map_cons, List.map_nil, List.filter_map, List.countP_map, List.map_map,
    keyFindings_censored, scrub_arr, reportRows, shown]
  rfl

theorem technical_censored (h : KeysApart cfg) (db : Db) (since until' : Option Time)
    (projectId : Int) (now : Time) :
    scrub cfg none (technicalReport cfg (reportRows (db.censored cfg) projectId) since until' now) =
      scrub cfg none (technicalReport cfg (reportRows db projectId) since until' now) := by
  have shown : scrub cfg none ∘ reportedFindingToDict (db.projects.find? projectId) ∘
      (fun f => f.censored cfg) =
        scrub cfg none ∘ reportedFindingToDict (db.projects.find? projectId) :=
    funext (scrub_reportedFinding h _)
  have ordered (l : List Finding) : orderDesc (·.createdAt) (l.map (·.censored cfg)) =
      (orderDesc (·.createdAt) l).map (·.censored cfg) :=
    orderDesc_map (·.censored cfg) (fun _ => rfl) l
  rw [reportRows_censored, technicalReport, technicalReport, scrub_obj, scrub_obj]
  simp only [List.map_cons, List.map_nil, List.filter_map, List.map_map, scrub_arr, ordered,
    reportRows, shown]
  rfl

variable (cfg) in
/-- No configured key outlives scrubbing: in a value, outside the keys of dictionaries and the ids
of runs, and in a report, which is that of a database without the keys. -/
structure KeysScrubbed : Prop where
  values : ∀ (v : Json) (t : Str) (k : Option Str), TextAt t (.under k) none (scrub cfg none v) →
    ¬k.any (· ∈ ID_KEYS) = true → ∀ secret ∈ configuredSecrets cfg.settings, ¬secret <:+: t
  censored : ∀ f : Finding, ∀ secret ∈ configuredSecrets cfg.settings,
    ¬secret <:+: (f.censored cfg).title ∧ ¬secret <:+: (f.censored cfg).description ∧
      ∀ (t : Str) (k : Option Str), ¬k.any (· ∈ ID_KEYS) = true →
        (TextAt t (.under k) (some "evidence".toList) (f.censored cfg).evidence ∨
          TextAt t (.under k) (some "reproduction".toList) (f.censored cfg).reproduction) →
        ¬secret <:+: t
  executive : ∀ (tick : Tick) (project : Project) (db : Db) (since until' : Option Time)
    (format : Str), getExecutiveReport cfg tick project (db.censored cfg) since until' format =
      getExecutiveReport cfg tick project db since until' format
  technical : ∀ (tick : Tick) (project : Project) (db : Db) (since until' : Option Time)
    (format : Str), getTechnicalReport cfg tick project (db.censored cfg) since until' format =
      getTechnicalReport cfg tick project db since until' format

/-- **No configured key outlives scrubbing**, where the keys are apart from the masks. -/
theorem keysScrubbed (h : KeysApart cfg) : KeysScrubbed cfg where
  values _ _ _ ht hk _ hs := not_infix_of_textAt_scrub h ht hk hs
  censored f secret hs := by
    refine ⟨not_infix_censorText hs (h secret hs) _, not_infix_censorText hs (h secret hs) _, ?_⟩
    rintro t k hk (ht | ht)
    · exact not_infix_of_textAt_censor h ht hk hs
    · exact not_infix_of_textAt_censor h ht hk hs
  executive tick project db since until' format := by
    have table : (db.censored cfg).testRunResults = db.testRunResults := rfl
    simp only [getExecutiveReport, buildExecutiveReport, executive_censored h, table]
  technical tick project db since until' format := by
    simp only [getTechnicalReport, buildTechnicalReport, technical_censored h]

/-! ### Keys apart from the masks -/

/-- A key with a small letter and without a bracket is apart from the masks. -/
theorem apartFromMasks_of_isLower {secret : Str} {c : Char} (hc : c ∈ secret)
    (hl : c.isLower = true) (ho : '[' ∉ secret) (hb : ']' ∉ secret) :
    ApartFromMasks cfg secret := by
  have hne : secret ≠ [] := List.ne_nil_of_mem hc
  have label (l : Str) : Apart secret (placeholder (upperAscii l)) := by
    have h := apart_of_signs (t := "REDACTED_".toList ++ upperAscii l) hne ho hb fun hi => by
      rcases List.mem_append.mp (hi.subset hc) with hm | hm
      · have none : "REDACTED_".toList.all (fun d => !d.isLower) = true := by decide
        simpa [hl] using List.all_eq_true.mp none c hm
      · obtain ⟨d, -, rfl⟩ := List.mem_map.mp hm
        rw [isLower_toUpper] at hl
        cases hl
    exact h
  intro m hm
  cases hm with
  | configured =>
      refine apart_of_signs (t := "REDACTED_CONFIGURED_KEY".toList) hne ho hb fun hi => ?_
      have none : "REDACTED_CONFIGURED_KEY".toList.all (fun d => !d.isLower) = true := by decide
      simpa [hl] using List.all_eq_true.mp none c (hi.subset hc)
  | pattern p => exact label _
  | entity _ => exact label _

/-- A server with a key for Groq. -/
def groqServer (key : Str) : Config := { Config.bare with settings := { groqApiKey := key } }

theorem keysScrubbed_groq : KeysScrubbed (groqServer "gsk_0123456789abcdef".toList) :=
  keysScrubbed fun secret hs => by
    have h : secret = "gsk_0123456789abcdef".toList := List.mem_singleton.mp hs
    rw [h]
    exact apartFromMasks_of_isLower (c := 'g') (by decide) (by decide) (by decide) (by decide)

variable (cfg) in
/-- No configured key occurs in any text of the scrubbed value, be it a key or a value. -/
def NoKeySurvives (v : Json) : Prop :=
  ∀ secret ∈ configuredSecrets cfg.settings, ∀ t p, TextAt t p none (scrub cfg none v) →
    ¬secret <:+: t

/-- What stands under the name of a run id is left as it is, and a key that is part of a mask is
put in with it. -/
theorem not_noKeySurvives :
    ¬NoKeySurvives (groqServer "gsk_0123456789abcdef".toList)
      (.obj [("run_id".toList, .str "gsk_0123456789abcdef".toList)]) ∧
    ¬NoKeySurvives (groqServer "CONFIGURED".toList) (.str "CONFIGURED".toList) := by
  constructor
  · intro h
    exact h _ List.mem_cons_self _ (.under (some "run_id".toList))
      (.item List.mem_cons_self (.str _)) (List.infix_refl _)
  · intro h
    have masked : scrubText (groqServer "CONFIGURED".toList) "CONFIGURED".toList =
        "[REDACTED_CONFIGURED_KEY]".toList := by decide +kernel
    have put : scrub (groqServer "CONFIGURED".toList) none (.str "CONFIGURED".toList) =
        .str "[REDACTED_CONFIGURED_KEY]".toList := by
      rw [scrub, if_neg (by decide), masked]
    refine h _ List.mem_cons_self _ (.under none) (by rw [put]; exact .str none) ?_
    exact ⟨"[REDACTED_".toList, "_KEY]".toList, by decide⟩

end Scrub

end SentinelAI

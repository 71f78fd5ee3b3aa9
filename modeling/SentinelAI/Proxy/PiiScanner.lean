import SentinelAI.Proxy.Schemas
import SentinelAI.Support.Regex
import SentinelAI.Support.Spans

/-!
# Proxy — PiiScanner

`proxy/middleware/pii_scanner.py`.  The Presidio engine is a parameter: what `analyze` returns for a
text, or nothing where the package is not installed.

* `redactPii_eq`: the text that `redact_pii` returns is the original with the kept spans of what was
  detected masked.
* `checkPii_found_iff`: what `check_pii` finds is that something was detected.
-/

namespace SentinelAI
open Support

/-- The keys of `PATTERNS`. -/
inductive PiiPattern where
  | email
  | phone
  | card
  | api_key
deriving DecidableEq, Repr

namespace PiiPattern

/-- `PATTERNS`, in order. -/
def PATTERNS : List PiiPattern := [.email, .phone, .card, .api_key]

def name : PiiPattern → Str
  | .email => "email"
  | .phone => "phone"
  | .card => "card"
  | .api_key => "api_key"

variable (U : Ucd)

/-- `[A-Za-z0-9]` under `re.I`. -/
def keyChar (c : Char) : Bool :=
  c.isAlphanum || c == 'İ' || c == 'ı' || c == 'ſ' || c.toNat == 0x212a

def digit : Re := .set U.isDigit

/-- `[-.\s]?` -/
def sep : Re := Re.opt (.set fun c => c == '-' || c == '.' || isSpace c)

/-- The expression of each pattern. -/
def re : PiiPattern → Re
  | email => Re.cat [Re.plus (.set fun c => c.isAlphanum || "._%+-".toList.contains c), Re.chr '@',
      Re.plus (.set fun c => c.isAlphanum || ".-".toList.contains c), Re.chr '.',
      Re.atLeast 2 (.set Char.isAlpha)]
  | phone => Re.cat [.bound U.isWord,
      Re.opt (Re.cat [Re.opt (Re.chr '+'), Re.between 1 3 (digit U), sep]),
      Re.opt (Re.chr '('), Re.times 3 (digit U), Re.opt (Re.chr ')'), sep, Re.times 3 (digit U),
      sep, Re.times 4 (digit U), .bound U.isWord]
  | card => Re.cat [.bound U.isWord,
      Re.between 13 16 (.seq (digit U) (.star true (Re.oneOf " -"))), .bound U.isWord]
  | api_key => Re.cat [.bound U.isWord,
      Re.any [Re.phrase "sk", Re.phrase "pk", Re.phrase "api", Re.phrase "key"], Re.oneOf "-_",
      Re.atLeast 16 (.set keyChar), .bound U.isWord]

end PiiPattern

/-- `_PRESIDIO_PII_ENTITY_TYPES` -/
def PRESIDIO_PII_ENTITY_TYPES : List Str :=
  ["person", "email_address", "phone_number", "credit_card", "iban_code", "ip_address", "crypto",
    "medical_license", "us_ssn", "us_bank_number", "us_driver_license", "us_passport", "us_itin",
    "uk_nhs", "au_abn", "au_acn", "au_tfn", "au_medicare", "sg_nric_fin", "in_aadhaar", "in_pan"]

structure RecognizerResult where
  entityType : Str
  start : Nat
  stop : Nat

/-- What `analyze(text, "en")` returns, or nothing without Presidio. -/
abbrev Analyzer := Option (Str → List RecognizerResult)

variable (U : Ucd) (analyzer : Analyzer)

def presidioResults (text : Str) : List RecognizerResult :=
  match analyzer with
  | none => []
  | some analyze => (analyze text).filter fun r => U.lower r.entityType ∈ PRESIDIO_PII_ENTITY_TYPES

def presidioTypes (text : Str) : List Str :=
  sortedSet ((presidioResults U analyzer text).map fun r => U.lower r.entityType)

def checkPii (text : Str) : PIIResult :=
  let regexTypes := (PiiPattern.PATTERNS.filter fun p => (p.re U).search text).map (·.name)
  let allTypes := sortedSet (regexTypes ++ presidioTypes U analyzer text)
  { found := !allTypes.isEmpty, redacted := false, types := allTypes }

/-- The spans of all matches, labelled. -/
def detected (text : Str) : List (Span Str) :=
  (PiiPattern.PATTERNS.flatMap fun p =>
    ((p.re U).findAll text).map fun m => ⟨m.1, m.2, upperAscii p.name⟩) ++
  (presidioResults U analyzer text).map fun r => ⟨r.start, r.stop, upperAscii r.entityType⟩

/-- `f"[REDACTED_{label}]"` -/
def placeholder (label : Str) : Str := "[REDACTED_".toList ++ label ++ "]".toList

/-- The pieces appended from cursor `cursor` on, over the spans that are left. -/
def redactLoop (text : Str) : Nat → List (Span Str) → List (Piece Str)
  | cursor, [] => [.copy cursor text.length]
  | cursor, s :: spans =>
      if s.start < cursor then redactLoop text cursor spans
      else .copy cursor s.start :: .mask s.label :: redactLoop text s.stop spans

/-- The pieces of the returned text: the whole text, where nothing is found. -/
def redactPieces (text : Str) : List (Piece Str) :=
  if (checkPii U analyzer text).found then
    redactLoop text 0 (Span.sorted (detected U analyzer text))
  else [.copy 0 text.length]

def redactPii (text : Str) : Str × PIIResult :=
  let result := checkPii U analyzer text
  ((redactPieces U analyzer text).flatMap (Piece.render text placeholder),
    if result.found then { result with redacted := true } else result)

/-! ### What is detected -/

/-- The results for `text` lie within it, as an engine's offsets do. -/
def Analyzer.Within (text : Str) : Prop :=
  ∀ analyze, analyzer = some analyze → ∀ r ∈ analyze text, r.start ≤ r.stop ∧ r.stop ≤ text.length

/-- The engine's results for `text` start in it, and not at a bracket. -/
def Analyzer.Unbracketed (text : Str) : Prop :=
  ∀ analyze, analyzer = some analyze → ∀ r ∈ analyze text,
    r.start ≤ text.length ∧ text[r.start]? ≠ some '['

theorem Analyzer.within_none (text : Str) : Analyzer.Within none text := fun _ h => nomatch h

theorem Analyzer.unbracketed_none (text : Str) : Analyzer.Unbracketed none text :=
  fun _ h => nomatch h

variable {U} {analyzer}

/-- No pattern matches the empty text. -/
theorem PiiPattern.minLen_pos (p : PiiPattern) : 0 < (p.re U).minLen := by
  cases p <;> simp [re, sep, digit, Re.cat, Re.any, Re.plus, Re.atLeast, Re.times, Re.between,
    Re.upTo, Re.opt, Re.chr, Re.oneOf, Re.phrase, Re.minLen]

theorem PiiPattern.mem_PATTERNS (p : PiiPattern) : p ∈ PATTERNS := by
  cases p <;> decide

theorem mem_detected {text : Str} {s : Span Str} :
    s ∈ detected U analyzer text ↔
      (∃ p : PiiPattern, (s.start, s.stop) ∈ (p.re U).findAll text ∧ s.label = upperAscii p.name) ∨
        ∃ r ∈ presidioResults U analyzer text, s = ⟨r.start, r.stop, upperAscii r.entityType⟩ := by
  simp only [detected, List.mem_append, List.mem_flatMap, List.mem_map, PiiPattern.mem_PATTERNS,
    true_and]
  refine or_congr ?_ (exists_congr fun r => and_congr_right fun _ => eq_comm)
  constructor
  · rintro ⟨p, m, hm, rfl⟩
    exact ⟨p, hm, rfl⟩
  · rintro ⟨p, hm, hl⟩
    exact ⟨p, _, hm, by rw [← hl]⟩

theorem detected_bounds {text : Str} (h : analyzer.Within text) :
    ∀ s ∈ detected U analyzer text, s.start ≤ s.stop ∧ s.stop ≤ text.length := by
  intro s hs
  rcases mem_detected.mp hs with ⟨p, hm, -⟩ | ⟨r, hr, rfl⟩
  · obtain ⟨_, _, -, -, -, hlt, -⟩ := Re.mem_findAll hm
    exact ⟨Nat.le_of_lt hlt, Re.findAll_le_length hm⟩
  · cases analyzer with
    | none => cases hr
    | some analyze => exact h analyze rfl r (List.mem_filter.mp hr).1

/-- **What `check_pii` finds** is that something was detected. -/
theorem checkPii_found_iff {text : Str} :
    (checkPii U analyzer text).found = true ↔ detected U analyzer text ≠ [] := by
  have hre : ∀ p : PiiPattern, (p.re U).search text = true ↔ ∃ m, m ∈ (p.re U).findAll text :=
    fun p => by
      rw [← Re.findAll_ne_nil_iff p.minLen_pos, ← List.isEmpty_eq_false_iff,
        List.isEmpty_eq_false_iff_exists_mem]
  rw [checkPii, Bool.not_eq_true', List.isEmpty_eq_false_iff_exists_mem,
    ← List.isEmpty_eq_false_iff, List.isEmpty_eq_false_iff_exists_mem]
  simp only [mem_sortedSet, List.mem_append, List.mem_map, List.mem_filter,
    PiiPattern.mem_PATTERNS, true_and, presidioTypes, hre]
  constructor
  · rintro ⟨_, ⟨p, ⟨m, hm⟩, rfl⟩ | ⟨r, hr, rfl⟩⟩
    · exact ⟨⟨m.1, m.2, upperAscii p.name⟩, mem_detected.mpr (.inl ⟨p, hm, rfl⟩)⟩
    · exact ⟨_, mem_detected.mpr (.inr ⟨r, hr, rfl⟩)⟩
  · rintro ⟨s, hs⟩
    rcases mem_detected.mp hs with ⟨p, hm, -⟩ | ⟨r, hr, -⟩
    · exact ⟨_, .inl ⟨p, ⟨_, hm⟩, rfl⟩⟩
    · exact ⟨_, .inr ⟨r, hr, rfl⟩⟩

/-- Without the engine, a span is a match of a pattern. -/
theorem mem_detected_none {text : Str} {s : Span Str} :
    s ∈ detected U none text ↔
      ∃ p : PiiPattern, (s.start, s.stop) ∈ (p.re U).findAll text ∧
        s.label = upperAscii p.name := by
  rw [mem_detected]
  exact or_iff_left fun ⟨_, hr, _⟩ => nomatch hr

theorem detected_none_lt {text : Str} : ∀ s ∈ detected U none text, s.start < s.stop := by
  intro s hs
  obtain ⟨p, hm, -⟩ := mem_detected_none.mp hs
  obtain ⟨_, _, -, -, -, hlt, -⟩ := Re.mem_findAll hm
  exact hlt

theorem isSelection_detected_none (text : Str) :
    Span.IsSelection (detected U none text) (Span.kept (detected U none text)) :=
  Span.isSelection_kept fun d hd => Nat.le_of_lt (detected_none_lt d hd)

theorem chain_kept (text : Str) : Span.Chain text.length 0 (Span.kept (detected U none text)) :=
  Span.chain_kept (detected_bounds (Analyzer.within_none text))

theorem checkPii_none_found_iff {text : Str} :
    (checkPii U none text).found = true ↔ ∃ p : PiiPattern, (p.re U).search text = true := by
  rw [checkPii_found_iff, ← List.isEmpty_eq_false_iff, List.isEmpty_eq_false_iff_exists_mem]
  constructor
  · rintro ⟨s, hs⟩
    obtain ⟨p, hm, -⟩ := mem_detected_none.mp hs
    exact ⟨p, (Re.findAll_ne_nil_iff p.minLen_pos text).mp (List.ne_nil_of_mem hm)⟩
  · rintro ⟨p, h⟩
    obtain ⟨m, hm⟩ :=
      List.exists_mem_of_ne_nil _ ((Re.findAll_ne_nil_iff p.minLen_pos text).mpr h)
    exact ⟨⟨m.1, m.2, upperAscii p.name⟩, mem_detected_none.mpr ⟨p, hm, rfl⟩⟩

/-! ### What the loop does -/

theorem redactLoop_eq (text : Str) (c : Nat) (l : List (Span Str)) :
    redactLoop text c l = Span.fill text.length c (Span.select c l) := by
  induction l generalizing c with
  | nil => rfl
  | cons s l ih =>
      simp only [redactLoop, Span.select]
      split
      · exact ih c
      · rw [Span.fill, ih]

/-- The pieces are the kept spans of what was detected, masked, and the text around them. -/
theorem redactPieces_eq (text : Str) :
    redactPieces U analyzer text =
      Span.fill text.length 0 (Span.kept (detected U analyzer text)) := by
  unfold redactPieces
  split
  · exact redactLoop_eq _ _ _
  · rename_i h
    rw [checkPii_found_iff, not_not] at h
    rw [h]
    rfl

theorem redactPii_eq (text : Str) :
    (redactPii U analyzer text).1 =
      Span.out placeholder text 0 (Span.kept (detected U analyzer text)) := by
  rw [redactPii, redactPieces_eq]
  rfl

end SentinelAI

import SentinelAI.Properties.KeyLifecycle
import SentinelAI.Properties.Patterns
import SentinelAI.Support.Occurrence

/-!
# Properties — Credentials

What the scanner does with the keys of `create_api_key`, without Presidio.  A key has two
underscores, and a match of `PATTERNS["api_key"]` has room for one.

* `PiiPattern.beside_rawKey`: a match of any pattern but `email` leaves the key alone.
* `infix_redactPii_rawKey_iff`: the key is in the redacted text where an occurrence of it meets no
  e-mail address that is masked.
* `recognised_iff`: when the scanner reports a key and takes the key out.
-/

namespace SentinelAI
open Support

variable {U : Ucd}

/-! ### The keys -/

/-- `bytes.hex` -/
def hex (bytes : List UInt8) : Str :=
  bytes.flatMap fun b => [Nat.digitChar (b.toNat / 16), Nat.digitChar (b.toNat % 16)]

/-- The key that `create_api_key` makes of its random bytes. -/
def rawKeyOf (bytes : List UInt8) : Str := KEY_PREFIX ++ hex bytes

theorem length_hex (bytes : List UInt8) : (hex bytes).length = 2 * bytes.length := by
  induction bytes with
  | nil => rfl
  | cons b bytes ih =>
      have hcons : hex (b :: bytes) = Nat.digitChar (b.toNat / 16) ::
        Nat.digitChar (b.toNat % 16) :: hex bytes := rfl
      rw [hcons, List.length_cons, List.length_cons, ih, List.length_cons]
      omega

theorem hex_chars {bytes : List UInt8} {c : Char} (h : c ∈ hex bytes) :
    isAscii c = true ∧ c.isAlphanum = true := by
  have digit : ∀ n < 16, isAscii (Nat.digitChar n) = true ∧
      (Nat.digitChar n).isAlphanum = true := by decide
  obtain ⟨b, -, hc⟩ := List.mem_flatMap.mp h
  have hb := b.toNat_lt
  simp only [List.mem_cons, List.not_mem_nil, or_false] at hc
  rcases hc with rfl | rfl
  · exact digit _ (by omega)
  · exact digit _ (by omega)

/-- A key is one word. -/
theorem rawKey_word {bytes : List UInt8} : ∀ c ∈ rawKeyOf bytes, U.isWord c = true := by
  intro c hc
  rcases List.mem_append.mp hc with hc | hc
  · have fixed : KEY_PREFIX.all fun c => isAscii c && (c.isAlphanum || c == '_') := by decide
    have := List.all_eq_true.mp fixed c hc
    rw [Bool.and_eq_true] at this
    rw [Ucd.isWord, if_pos this.1, this.2]
  · obtain ⟨ascii, alphanum⟩ := hex_chars hc
    rw [Ucd.isWord, if_pos ascii, alphanum, Bool.true_or]

/-- It has two underscores. -/
theorem two_le_countP_rawKey (bytes : List UInt8) : 2 ≤ (rawKeyOf bytes).countP (· == '_') := by
  rw [rawKeyOf, List.countP_append]
  have fixed : KEY_PREFIX.countP (· == '_') = 2 := by decide
  omega

/-- It shares no position with a placeholder. -/
theorem apart_rawKey {bytes : List UInt8} (hl : bytes.length = 24) {label : Str}
    (h : label ∈ patternLabels) : Apart (rawKeyOf bytes) (placeholder label) := by
  have hlen : (rawKeyOf bytes).length = 56 := by
    rw [rawKeyOf, List.length_append, length_hex, hl]
    rfl
  have bracket : ∀ c, Ucd.ascii.isWord c = false → c ∉ rawKeyOf bytes := fun c hc hm => by
    rw [rawKey_word c hm] at hc
    cases hc
  rw [placeholder_eq]
  refine apart_of_signs ?_ (bracket '[' rfl) (bracket ']' rfl) fun hi => ?_
  · exact List.ne_nil_of_length_pos (by omega)
  · have := hi.length_le
    have := (placeholder_chars h).1
    omega

/-! ### What the patterns leave alone -/

/-- The patterns other than `email` match between word boundaries. -/
theorem PiiPattern.bounded : ∀ p : PiiPattern, p ≠ .email → Re.Bounded U.isWord (p.re U)
  | .email, h => absurd rfl h
  | .phone, _ => Re.bounded_cat U.isWord [Re.opt (Re.cat [Re.opt (Re.chr '+'),
      Re.between 1 3 (digit U), sep]), Re.opt (Re.chr '('), Re.times 3 (digit U),
      Re.opt (Re.chr ')'), sep, Re.times 3 (digit U), sep, Re.times 4 (digit U)]
  | .card, _ => Re.bounded_cat U.isWord
      [Re.between 13 16 (.seq (digit U) (.star true (Re.oneOf " -")))]
  | .api_key, _ => Re.bounded_cat U.isWord
      [Re.any [Re.phrase "sk", Re.phrase "pk", Re.phrase "api", Re.phrase "key"], Re.oneOf "-_",
        Re.atLeast 16 (.set keyChar)]

/-- They read at most one underscore. -/
theorem PiiPattern.counts_underscore :
    ∀ p : PiiPattern, p ≠ .email → Re.Counts (· == '_') (p.re U) 0 1 := by
  intro p hp
  cases p with
  | email => exact absurd rfl hp
  | phone | card => exact (Re.counts_of_skips rfl).mono (Nat.le_refl 0) (Nat.zero_le 1)
  | api_key =>
      -- the sign between the kind of the key and its characters
      have sign : Re.Counts (· == '_') (Re.oneOf "-_") 0 1 := Re.counts_set_le
      exact (Re.counts_of_skips rfl).seq ((Re.counts_of_skips rfl).seq
        (sign.seq (Re.counts_of_skips rfl)))

/-- **A match of another pattern than `email`** leaves a key alone. -/
theorem PiiPattern.beside_rawKey {p : PiiPattern} (hp : p ≠ .email) {bytes : List UInt8}
    {text : Str} {i j n : Nat} (hm : (i, j) ∈ (p.re U).findAll text)
    (hn : OccursAt (rawKeyOf bytes) text n) : j ≤ n ∨ n + (rawKeyOf bytes).length ≤ i := by
  obtain ⟨z, z', ht, rfl, rfl, -, hz⟩ := Re.mem_findAll hm
  obtain ⟨u, v, hu, rfl⟩ := hn
  have hm := Re.matchAt_match hz
  rcases hm.beside_or_reads (p.bounded hp) rawKey_word (ht.trans hu) with h | h | ⟨s, hs, hi⟩
  · exact .inl h
  · exact .inr h
  · have := (p.counts_underscore hp z z' s hm hs).2
    have := hi.sublist.countP_le (p := (· == '_'))
    have := two_le_countP_rawKey bytes
    omega

/-! ### What becomes of a key -/

/-- What is masked of the text meets no key unless it is an e-mail address. -/
theorem infix_redactPii_rawKey_iff {bytes : List UInt8} (hl : bytes.length = 24) (text : Str) :
    rawKeyOf bytes <:+: (redactPii U none text).1 ↔
      ∃ n, OccursAt (rawKeyOf bytes) text n ∧ ∀ e ∈ Span.kept (detected U none text),
        (e.start, e.stop) ∈ (PiiPattern.email.re U).findAll text →
          ¬e.Meets n (n + (rawKeyOf bytes).length) := by
  rw [redactPii_eq, Span.infix_out_iff_occursAt (chain_kept text) fun k hk =>
    apart_rawKey hl (label_mem_patternLabels (Span.mem_of_mem_kept hk))]
  refine exists_congr fun n => and_congr_right fun hn => forall₂_congr fun k hk => ?_
  refine ⟨fun h _ => h, fun h hmeets => ?_⟩
  obtain ⟨p, hm, -⟩ := mem_detected_none.mp (Span.mem_of_mem_kept hk)
  by_cases hp : p = .email
  · exact h (hp ▸ hm) hmeets
  · have := PiiPattern.beside_rawKey hp hm hn
    unfold Span.Meets at hmeets
    omega

/-- A key in a text without an e-mail address is handed on. -/
theorem rawKey_infix_redactPii {bytes : List UInt8} (hl : bytes.length = 24) {text : Str}
    (hk : rawKeyOf bytes <:+: text) (h : (PiiPattern.email.re U).search text = false) :
    rawKeyOf bytes <:+: (redactPii U none text).1 := by
  obtain ⟨u, v, e⟩ := hk
  refine (infix_redactPii_rawKey_iff hl text).mpr ⟨u.length, ⟨u, v, ?_, rfl⟩, fun k _ hm => ?_⟩
  · rw [← e, List.append_assoc]
  · have := (Re.findAll_ne_nil_iff PiiPattern.email.minLen_pos text).mp (List.ne_nil_of_mem hm)
    rw [h] at this
    cases this

/-- Without Presidio, the type is reported where the pattern finds something. -/
theorem api_key_mem_types_iff (text : Str) : "api_key".toList ∈ (checkPii U none text).types ↔
    ∃ m, m ∈ (PiiPattern.api_key.re U).findAll text := by
  have hname : ∀ p : PiiPattern, p.name = "api_key" ↔ p = .api_key := by
    intro p
    cases p <;> decide
  rw [← List.isEmpty_eq_false_iff_exists_mem, List.isEmpty_eq_false_iff,
    Re.findAll_ne_nil_iff PiiPattern.api_key.minLen_pos]
  simp only [checkPii, mem_sortedSet, List.mem_append, List.mem_map, List.mem_filter,
    PiiPattern.mem_PATTERNS, true_and, presidioTypes, presidioResults, List.map_nil,
    List.not_mem_nil, or_false]
  constructor
  · rintro ⟨p, hp, he⟩
    exact (hname p).mp he ▸ hp
  · exact fun h => ⟨.api_key, h, rfl⟩

/-- A key alone is not reported. -/
theorem api_key_not_mem_types_rawKey (bytes : List UInt8) :
    "api_key".toList ∉ (checkPii U none (rawKeyOf bytes)).types := by
  rw [api_key_mem_types_iff]
  rintro ⟨⟨i, j⟩, hm⟩
  have hat : OccursAt (rawKeyOf bytes) (rawKeyOf bytes) 0 :=
    ⟨[], [], by rw [List.append_nil, List.nil_append], rfl⟩
  have := PiiPattern.beside_rawKey (by decide) hm hat
  have := Re.findAll_le_length hm
  obtain ⟨_, _, -, -, -, hlt, -⟩ := Re.mem_findAll hm
  omega

theorem search_email_rawKey (bytes : List UInt8) :
    (PiiPattern.email.re U).search (rawKeyOf bytes) = false := by
  refine Re.search_eq_false_of_needs needs_email fun c hc => ?_
  rw [beq_eq_false_iff_ne]
  rintro rfl
  have hw : Ucd.ascii.isWord '@' = true := rawKey_word '@' hc
  cases hw

/-! ### When a key is recognised -/

/-- The scanner reports an API key in the text, and does not hand this one on. -/
def Recognised (U : Ucd) (key text : Str) : Prop :=
  "api_key".toList ∈ (checkPii U none text).types ∧ ¬key <:+: (redactPii U none text).1

/-- The pattern for keys matches beside the key: the text holds another credential. -/
def OtherCredential (U : Ucd) (key text : Str) : Prop :=
  ∃ m ∈ (PiiPattern.api_key.re U).findAll text,
    ∀ n, OccursAt key text n → m.2 ≤ n ∨ n + key.length ≤ m.1

/-- Of the matches in the text, chosen leftmost first and longest first, e-mail addresses meet the
key wherever it occurs. -/
def MetByEmails (U : Ucd) (key text : Str) : Prop :=
  ∃ T, Span.IsSelection (detected U none text) T ∧ ∀ n, OccursAt key text n →
    ∃ e ∈ T, (e.start, e.stop) ∈ (PiiPattern.email.re U).findAll text ∧
      e.Meets n (n + key.length)

/-- **Credentials of the platform.**  The scanner recognises a key that `create_api_key` returned
exactly where the text holds another credential and the key runs into e-mail addresses. -/
theorem recognised_iff {cfg : Config} {tick : Tick} {t t' : Table ProjectAPIKey} {projectId : Int}
    {name rawKey : Str} {row : ProjectAPIKey}
    (h : createApiKey cfg tick t projectId name = some (row, rawKey, t')) {bytes : List UInt8}
    (hb : tick.tokenHex = hex bytes) (hl : bytes.length = 24) (text : Str) :
    Recognised cfg.U rawKey text ↔
      OtherCredential cfg.U rawKey text ∧ MetByEmails cfg.U rawKey text := by
  have hraw : rawKey = rawKeyOf bytes := by
    rw [(createApiKey_eq_some h).1, hb]
    rfl
  subst hraw
  refine and_congr ?_ ?_
  · rw [api_key_mem_types_iff]
    constructor
    · rintro ⟨m, hm⟩
      exact ⟨m, hm, fun n hn => PiiPattern.beside_rawKey (by decide) hm hn⟩
    · rintro ⟨m, hm, -⟩
      exact ⟨m, hm⟩
  · rw [infix_redactPii_rawKey_iff hl]
    constructor
    · intro hno
      refine ⟨_, isSelection_detected_none text, fun n hn => ?_⟩
      by_contra hall
      exact hno ⟨n, hn, fun e he hm hmeets => hall ⟨e, he, hm, hmeets⟩⟩
    · rintro ⟨T, hT, hmet⟩ ⟨n, hn, hno⟩
      obtain ⟨e, he, hm, hmeets⟩ := hmet n hn
      rw [hT.eq_kept detected_none_lt] at he
      exact hno e he hm hmeets

/-- The key of 24 bytes `5a`. -/
def sampleKey : Str := rawKeyOf (List.replicate 24 0x5a)

/-- A request that draws those bytes. -/
def sampleTick : Tick := { Tick.zero with tokenHex := hex (List.replicate 24 0x5a) }

/-- The row that `create_api_key` stores then. -/
def sampleKeyRow : ProjectAPIKey := ⟨1, 1, "ci", sampleKey, sampleKey.take 12, 0, none, none⟩

theorem createApiKey_sample : createApiKey Config.bare sampleTick .empty 1 "ci" =
    some (sampleKeyRow, sampleKey, Table.empty.insert sampleKeyRow) := rfl

/-- The key behind another credential, with an address that runs into it. -/
def recognisedText : Str := "sk-0123456789abcdef a@b.".toList ++ sampleKey

theorem recognised_iff_sample : Recognised Config.bare.U sampleKey recognisedText ∧
    OtherCredential Config.bare.U sampleKey recognisedText ∧
      MetByEmails Config.bare.U sampleKey recognisedText := by
  have recognised : Recognised Config.bare.U sampleKey recognisedText := by
    unfold Recognised
    decide +kernel
  exact ⟨recognised, (recognised_iff createApiKey_sample rfl rfl recognisedText).mp recognised⟩

/-- The key stands in the text between characters that are not word characters, or at its ends. -/
def Delimited (U : Ucd) (key text : Str) : Prop :=
  ∃ a b, text = a ++ (key ++ b) ∧ a.getLast?.any U.isWord = false ∧ b.head?.any U.isWord = false

/-- A key that `create_api_key` returned, alone in a text, is not reported and is handed on. -/
theorem not_recognised_alone :
    createApiKey Config.bare sampleTick .empty 1 "ci" =
      some (sampleKeyRow, sampleKey, Table.empty.insert sampleKeyRow) ∧
    Delimited Config.bare.U sampleKey sampleKey ∧
    "api_key".toList ∉ (checkPii Config.bare.U none sampleKey).types ∧
    sampleKey <:+: (redactPii Config.bare.U none sampleKey).1 :=
  ⟨createApiKey_sample, ⟨[], [], by rw [List.append_nil, List.nil_append], rfl, rfl⟩,
    api_key_not_mem_types_rawKey _, rawKey_infix_redactPii rfl (List.infix_refl _)
      (search_email_rawKey _)⟩

end SentinelAI

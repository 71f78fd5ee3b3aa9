import SentinelAI.Properties.Redaction

/-!
# Properties — GatewayRedaction

The gateway inspects the messages of a request joined by newlines, and redacts them one by one.

* `redactionAgrees_iff`: the two agree exactly when the leftmost-longest choice of matches in the
  joined text is made up of the choices in the messages.  It is not when a phone number is split
  over two messages.
-/

namespace SentinelAI
open Support

variable {U : Ucd}

/-- The texts of the messages under inspection. -/
def contents (messages : List Message) : List Str :=
  (messages.filter (·.role ≠ .system)).map (·.content)

/-- Spans of each text, placed in the texts joined by newlines. -/
def placed : List Str → List (List (Span Str)) → List (Span Str)
  | c :: cs, K :: Ks => K ++ (placed cs Ks).map (Span.shift (c.length + 1))
  | _, _ => []

/-- The leftmost-longest choice of matches in the joined texts is made message by message. -/
def SplitsByMessage (U : Ucd) (cs : List Str) : Prop :=
  ∃ Ks, List.Forall₂ (fun c K => Span.IsSelection (detected U none c) K) cs Ks ∧
    Span.IsSelection (detected U none (join "\n" cs)) (placed cs Ks)

/-- Redaction message by message agrees with the inspection of the whole. -/
structure RedactionAgrees (env : PipelineEnv) (messages : List Message) (route : Option Str)
    (policy : GatewayPolicy) (application : Option Str) : Prop where
  /-- What is sent is what the request policy makes of the messages. -/
  sent : ∀ out, (runPipeline env messages route policy application).sent = some out →
    out = (requestPolicy env policy messages).1
  joined : untrusted (requestPolicy env policy messages).1 =
    (redactPii env.U env.analyzer (untrusted messages)).1
  system : List.Forall₂ (fun m out => out.role = m.role ∧ (m.role = .system → out = m)) messages
    (requestPolicy env policy messages).1
  modified : (runPipeline env messages route policy application).result.requestModified = true ↔
    (requestPolicy env policy messages).1 ≠ messages

/-! ### Redacting line by line -/

def redactLine (U : Ucd) (c : Str) : Str := (redactPii U none c).1

/-- What is kept of each text. -/
def keptLines (U : Ucd) (cs : List Str) : List (List (Span Str)) :=
  cs.map fun c => Span.kept (detected U none c)

theorem join_cons (c c' : Str) (cs : List Str) :
    join "\n" (c :: c' :: cs) = c ++ '\n' :: join "\n" (c' :: cs) := by
  rw [join, List.intercalate_cons_cons, List.append_assoc]
  rfl

theorem map_shift_add (K : List (Span Str)) (m n : Nat) :
    K.map (Span.shift (m + n)) = (K.map (Span.shift n)).map (Span.shift m) := by
  rw [List.map_map]
  refine List.map_congr_left fun s _ => ?_
  simp [Span.shift, Nat.add_assoc]

theorem placed_cons (c : Str) (cs : List Str) :
    placed (c :: cs) (keptLines U (c :: cs)) = Span.kept (detected U none c) ++
      ((placed cs (keptLines U cs)).map (Span.shift 1)).map (Span.shift c.length) := by
  rw [← map_shift_add]
  rfl

theorem out_placed (cs : List Str) :
    Span.out placeholder (join "\n" cs) 0 (placed cs (keptLines U cs)) =
      join "\n" (cs.map (redactLine U)) := by
  induction cs with
  | nil => simp [placed, Span.out_nil, join]
  | cons c cs ih =>
      cases cs with
      | nil => simp [placed, keptLines, join, redactLine, redactPii_eq]
      | cons c' cs =>
          have none_kept : Span.Chain ['\n'].length 0 ([] : List (Span Str)) := Nat.zero_le 1
          -- the newline after `c` is copied
          have newline := Span.out_append placeholder (v := join "\n" (c' :: cs)) none_kept
            (placed (c' :: cs) (keptLines U (c' :: cs)))
          rw [ih, Span.out_nil] at newline
          rw [placed_cons, join_cons, Span.out_append placeholder (chain_kept c), List.map_cons,
            List.map_cons, join_cons, ← List.map_cons, redactLine, redactPii_eq]
          exact congrArg _ newline

theorem chain_placed (cs : List Str) :
    Span.Chain (join "\n" cs).length 0 (placed cs (keptLines U cs)) := by
  induction cs with
  | nil => exact Nat.zero_le _
  | cons c cs ih =>
      cases cs with
      | nil => simpa [placed, keptLines, join] using chain_kept c
      | cons c' cs =>
          have none_kept : Span.Chain 1 0 ([] : List (Span Str)) := Nat.zero_le 1
          have rest := Span.chain_append none_kept ih
          rw [placed_cons, join_cons, List.length_append, List.length_cons, Nat.add_comm _ 1]
          exact Span.chain_append (chain_kept c) rest

/-! ### What is kept of a line, in the joined text -/

/-- `line` is one of the texts `cs`, which joined are `pre ++ line ++ post`. -/
inductive LineOf : List Str → Str → Str → Str → Prop where
  | last (c : Str) : LineOf [c] [] c []
  | here (c c' : Str) (cs : List Str) :
      LineOf (c :: c' :: cs) [] c ('\n' :: join "\n" (c' :: cs))
  | next (c : Str) {cs : List Str} {pre line post : Str} (h : LineOf cs pre line post) :
      LineOf (c :: cs) (c ++ '\n' :: pre) line post

namespace LineOf

variable {cs : List Str} {pre line post : Str}

theorem join_eq (h : LineOf cs pre line post) : join "\n" cs = pre ++ (line ++ post) := by
  induction h with
  | last c => simp [join]
  | here c c' cs => exact join_cons c c' cs
  | @next c cs pre line post h ih =>
      cases cs with
      | nil => cases h
      | cons c' cs => rw [join_cons, ih]; simp

theorem before (h : LineOf cs pre line post) : ∀ d, pre.getLast? = some d → d = '\n' := by
  induction h with
  | last c | here c c' cs => simp
  | @next c cs pre line post h ih =>
      intro d hd
      cases pre with
      | nil => simpa using hd.symm
      | cons e pre =>
          rw [List.getLast?_append_of_ne_nil _ (by simp), List.getLast?_cons_cons] at hd
          exact ih d hd

theorem after (h : LineOf cs pre line post) : ∀ d, post.head? = some d → d = '\n' := by
  induction h with
  | last c => simp
  | here c c' cs => exact fun d hd => (Option.some.inj hd).symm
  | next c h ih => exact ih

end LineOf

theorem exists_lineOf {c : Str} : ∀ {cs : List Str}, c ∈ cs → ∃ pre post, LineOf cs pre c post
  | [d], h => by
      rw [List.mem_singleton] at h
      exact ⟨[], [], h ▸ LineOf.last c⟩
  | d :: d' :: cs, h => by
      rcases List.mem_cons.mp h with rfl | h
      · exact ⟨_, _, .here c d' cs⟩
      · obtain ⟨pre, post, h⟩ := exists_lineOf h
        exact ⟨_, _, .next d h⟩

/-- A placed span lies in one of the lines. -/
theorem mem_placed {cs : List Str} {k : Span Str} (h : k ∈ placed cs (keptLines U cs)) :
    ∃ pre line post, LineOf cs pre line post ∧
      ∃ s ∈ detected U none line, k = s.shift pre.length := by
  induction cs generalizing k with
  | nil => cases h
  | cons c cs ih =>
      rw [placed_cons, ← map_shift_add] at h
      have first : k ∈ Span.kept (detected U none c) →
          ∃ s ∈ detected U none c, k = s.shift ([] : Str).length := fun h =>
        ⟨k, Span.mem_of_mem_kept h, by simp [Span.shift]⟩
      cases cs with
      | nil =>
          rcases List.mem_append.mp h with h | h
          · exact ⟨_, _, _, .last c, first h⟩
          · cases h
      | cons c' cs =>
          rcases List.mem_append.mp h with h | h
          · exact ⟨_, _, _, .here c c' cs, first h⟩
          · obtain ⟨s, hs, rfl⟩ := List.mem_map.mp h
            obtain ⟨pre, line, post, hline, s', hs', rfl⟩ := ih hs
            exact ⟨_, _, _, .next c hline, s', hs',
              by simp [Span.shift, Nat.add_assoc, Nat.add_comm 1]⟩

/-- A match, and the pattern and the label it was detected under. -/
theorem exists_matchAt {text : Str} {s : Span Str} (h : s ∈ detected U none text) :
    ∃ (p : PiiPattern) (z z' : Place), z.text = text ∧ z.pos = s.start ∧ z'.pos = s.stop ∧
      (p.re U).matchAt z = some z' ∧ s.label = upperAscii p.name := by
  obtain ⟨p, hm, hl⟩ := mem_detected_none.mp h
  obtain ⟨z, z', ht, hi, hj, -, hm⟩ := Re.mem_findAll hm
  exact ⟨p, z, z', ht, hi, hj, hm, hl⟩

theorem upperAscii_name_injective {p q : PiiPattern} (h : upperAscii p.name = upperAscii q.name) :
    p = q := by
  revert h
  cases p <;> cases q <;> decide

/-- A kept match of the text and a kept match of a line that start together, under one label, are
the same match. -/
theorem stop_eq {cs : List Str} {k₁ k₂ : Span Str} (h₁ : k₁ ∈ detected U none (join "\n" cs))
    (h₂ : k₂ ∈ placed cs (keptLines U cs)) (hs : k₁.start = k₂.start) (hl : k₁.label = k₂.label) :
    k₁.stop = k₂.stop := by
  obtain ⟨p, z, z', ht, hi, hj, hm, hlp⟩ := exists_matchAt h₁
  obtain ⟨pre, c, post, hline, s, hd, rfl⟩ := mem_placed h₂
  obtain ⟨q, y, y', ht', hi', hj', hm', hlq⟩ := exists_matchAt hd
  have hpq : p = q := upperAscii_name_injective (hlp.symm.trans (hl.trans hlq))
  subst hpq
  -- both start at one place of the joined text, where the matcher takes one match
  have hz : z = y.within pre post := by
    refine Place.eq_of_pos ?_ ?_
    · rw [ht, hline.join_eq, Place.text_within, ht']
    · rw [hi, hs, Place.pos_within, hi']
      rfl
  rw [hz, p.matchAt_line hline.before hline.after (Re.matchAt_match hm'), hm'] at hm
  rw [← hj, ← Option.some.inj hm, Place.pos_within, hj']
  rfl

/-- A detected span does not start with a bracket. -/
theorem start_ne_bracket {text : Str} {s : Span Str} (h : s ∈ detected U none text) :
    ∃ a, text[s.start]? = some a ∧ a ≠ '[' := by
  obtain ⟨p, z, z', rfl, hi, hj, hm, -⟩ := exists_matchAt h
  have hm := Re.matchAt_match hm
  obtain ⟨w, hw⟩ := hm.reads
  have hlen := detected_none_lt s h
  rw [← hi, ← hj, hw.pos_eq] at hlen
  obtain ⟨a, t, rfl⟩ := List.exists_cons_of_ne_nil (l := w) (by rintro rfl; simp at hlen)
  refine ⟨a, ?_, hm.over (Re.over_of_blind p.blind_bracket.1) hw a List.mem_cons_self⟩
  rw [← hi, Place.text, Place.pos, hw.1, List.getElem?_append_right (by simp)]
  simp

/-! ### The two redactions -/

theorem signed_kept (text : Str) :
    Span.Signed placeholder '[' patternLabels text (Span.kept (detected U none text)) where
  head l := ⟨_, placeholder_eq l⟩
  code _ hl _ hl' _ _ h := placeholder_code hl hl' h
  start _ hk := start_ne_bracket (Span.mem_of_mem_kept hk)
  label _ hk := label_mem_patternLabels (Span.mem_of_mem_kept hk)

theorem signed_placed (cs : List Str) :
    Span.Signed placeholder '[' patternLabels (join "\n" cs) (placed cs (keptLines U cs)) where
  head l := ⟨_, placeholder_eq l⟩
  code _ hl _ hl' _ _ h := placeholder_code hl hl' h
  start k hk := by
    obtain ⟨pre, c, post, hline, s, hs, rfl⟩ := mem_placed hk
    obtain ⟨a, ha, hne⟩ := start_ne_bracket hs
    have hlt : s.start < c.length := (List.getElem?_eq_some_iff.mp ha).1
    refine ⟨a, ?_, hne⟩
    rw [hline.join_eq, Span.shift, List.getElem?_append_right (by simp), Nat.add_sub_cancel_left,
      List.getElem?_append_left hlt, ha]
  label k hk := by
    obtain ⟨pre, c, post, -, s, hs, rfl⟩ := mem_placed hk
    exact label_mem_patternLabels (s := s) hs

/-- The redaction of the joined text is that of the texts joined exactly when the same matches are
kept. -/
theorem redact_join_iff (cs : List Str) :
    join "\n" (cs.map (redactLine U)) = redactLine U (join "\n" cs) ↔
      placed cs (keptLines U cs) = Span.kept (detected U none (join "\n" cs)) := by
  rw [← out_placed, redactLine, redactPii_eq]
  refine ⟨fun h => ?_, fun h => by rw [h]⟩
  have signed := signed_kept (U := U) (join "\n" cs)
  refine Span.out_injective (chain_placed cs) (chain_kept _) (signed_placed cs) signed ?_ h
  intro k₁ h₁ k₂ h₂ hs hl
  exact (stop_eq (Span.mem_of_mem_kept h₂) h₁ hs.symm hl.symm).symm

theorem splitsByMessage_iff (cs : List Str) :
    SplitsByMessage U cs ↔
      placed cs (keptLines U cs) = Span.kept (detected U none (join "\n" cs)) := by
  constructor
  · rintro ⟨Ks, hKs, hK⟩
    have hlines : Ks = keptLines U cs := by
      clear hK
      induction hKs with
      | nil => rfl
      | cons h _ ih => rw [h.eq_kept detected_none_lt, ih]; rfl
    exact hlines ▸ hK.eq_kept detected_none_lt
  · intro h
    refine ⟨keptLines U cs, ?_, h ▸ isSelection_detected_none _⟩
    exact List.forall₂_map_right_iff.mpr
      (List.forall₂_same.mpr fun c _ => isSelection_detected_none c)

/-- A text in which something is found is changed. -/
theorem redactPii_ne_self {analyzer : Analyzer} {text : Str}
    (ha : analyzer.Unbracketed text) (hf : (checkPii U analyzer text).found = true) :
    (redactPii U analyzer text).1 ≠ text := by
  have start : ∀ d ∈ detected U analyzer text,
      d.start ≤ text.length ∧ text[d.start]? ≠ some '[' := by
    intro d hd
    rcases mem_detected.mp hd with ⟨p, hm, hl⟩ | ⟨r, hr, rfl⟩
    · have hd : d ∈ detected U none text := mem_detected_none.mpr ⟨p, hm, hl⟩
      obtain ⟨a, hat, hne⟩ := start_ne_bracket hd
      have hlt := (List.getElem?_eq_some_iff.mp hat).1
      exact ⟨Nat.le_of_lt hlt, fun h => hne (Option.some.inj (hat.symm.trans h))⟩
    · cases analyzer with
      | none => cases hr
      | some analyze => exact ha analyze rfl r (List.mem_filter.mp hr).1
  rw [redactPii_eq]
  cases hk : Span.kept (detected U analyzer text) with
  | nil => exact absurd hk (Span.kept_ne_nil (checkPii_found_iff.mp hf))
  | cons k K =>
      have hmem := start k (Span.mem_of_mem_kept (hk ▸ List.mem_cons_self))
      exact Span.out_ne_self placeholder ⟨_, placeholder_eq k.label⟩ hmem.1 hmem.2

theorem redactLine_ne_self {text : Str} (h : (checkPii U none text).found = true) :
    redactLine U text ≠ text :=
  redactPii_ne_self (Analyzer.unbracketed_none text) h

/-- What is found in a message is found in the joined text. -/
theorem found_of_mem {cs : List Str} {c : Str} (hc : c ∈ cs)
    (h : (checkPii U none c).found = true) : (checkPii U none (join "\n" cs)).found = true := by
  rw [checkPii_none_found_iff] at h ⊢
  obtain ⟨p, hp⟩ := h
  obtain ⟨z, z', rfl, hm⟩ := (Re.search_iff _ _).mp hp
  obtain ⟨pre, post, hline⟩ := exists_lineOf hc
  refine ⟨p, (Re.search_iff _ _).mpr ⟨z.within pre post, z'.within pre post, ?_, ?_⟩⟩
  · rw [hline.join_eq, Place.text_within]
  · exact hm.within (p.sealed_lines hline.before hline.after)

/-! ### The request policy -/

theorem contents_map {f : Message → Message} (cs : List Message)
    (h : ∀ m, (f m).role = m.role) : contents (cs.map f) =
      (cs.filter (·.role ≠ .system)).map fun m => (f m).content := by
  rw [contents, List.filter_map, List.map_map]
  refine congrArg _ (List.filter_congr fun m _ => ?_)
  simp [h]

section Request

variable {env : PipelineEnv} {messages : List Message} {policy : GatewayPolicy}

/-- What is inspected after the request policy: every message redacted. -/
theorem untrusted_requestPolicy (hA : env.analyzer = none)
    (hp : policy.requestPiiAction = .redact) :
    untrusted (requestPolicy env policy messages).1 =
      join "\n" ((contents messages).map (redactLine env.U)) := by
  unfold requestPolicy
  split
  · rw [untrusted, ← contents, contents_map _ fun m => by split <;> rfl, contents, List.map_map]
    refine congrArg _ (List.map_congr_left fun m hm => ?_)
    have hs : m.role ≠ .system := by simpa using (List.mem_filter.mp hm).2
    simp [hs, PipelineEnv.redact, hA, redactLine]
  · rename_i hf
    -- nothing is found in the whole, so nothing is in any message
    have hf : ¬ (checkPii env.U none (join "\n" (contents messages))).found = true := by
      simpa [hp, PipelineEnv.check, hA, untrusted, contents] using hf
    have same : (contents messages).map (redactLine env.U) = contents messages := by
      conv_rhs => rw [← List.map_id (contents messages)]
      refine List.map_congr_left fun c hc => redactPii_of_not_found ?_
      exact Bool.not_eq_true _ ▸ fun hc' => hf (found_of_mem hc hc')
    rw [same]
    rfl

theorem system_requestPolicy :
    List.Forall₂ (fun m out => out.role = m.role ∧ (m.role = .system → out = m)) messages
      (requestPolicy env policy messages).1 := by
  unfold requestPolicy
  split
  · refine List.forall₂_map_right_iff.mpr (List.forall₂_same.mpr fun m _ => ?_)
    by_cases hs : m.role = .system <;> simp [hs]
  · exact List.forall₂_same.mpr fun m _ => ⟨rfl, fun _ => rfl⟩

/-- **Redacting message by message agrees with redacting the whole exactly when the matches chosen
in the joined text are those chosen in the messages.** -/
theorem redactionAgrees_iff {route : Option Str} {application : Option Str}
    (hA : env.analyzer = none) (hp : policy.requestPiiAction = .redact)
    (hb : blockedRequest env policy messages = none) :
    RedactionAgrees env messages route policy application ↔
      SplitsByMessage env.U (contents messages) := by
  have joined : untrusted (requestPolicy env policy messages).1 =
      (redactPii env.U env.analyzer (untrusted messages)).1 ↔
        SplitsByMessage env.U (contents messages) := by
    rw [splitsByMessage_iff, ← redact_join_iff, untrusted_requestPolicy hA hp, hA]
    rfl
  refine ⟨fun h => joined.mp h.joined, fun h => ⟨?_, joined.mpr h, system_requestPolicy, ?_⟩⟩
  · intro out hout
    obtain ⟨h₁, h₂, -⟩ := runPipeline_sent route application hb
    cases hr : env.providerFor route with
    | none => rw [h₂ hr] at hout; cases hout
    | some provider => rw [h₁ provider hr] at hout; exact (Option.some.inj hout).symm
  · rw [(runPipeline_sent _ _ hb).2.2]
    have hj := joined.mpr h
    unfold requestPolicy at hj ⊢
    split
    · rename_i hf
      rw [if_pos hf] at hj
      refine iff_of_true rfl fun heq => ?_
      rw [heq, hA] at hj
      have found : (checkPii env.U none (untrusted messages)).found = true := by
        simpa [PipelineEnv.check, hA] using hf.1
      exact redactLine_ne_self found hj.symm
    · exact iff_of_false (by simp) (by simp)

end Request

/-! ### A number over two messages -/

/-- A run with no engine and no monitoring, in front of a provider that repeats the last message. -/
def echoEnv : PipelineEnv where
  U := Ucd.ascii
  analyzer := none
  sha256 text := text
  requestId := "r1"
  providerFor _ := some fun messages =>
    .ok ⟨(messages.getLast?.map (·.content)).getD [], 1, 1, 1, "echo", "groq"⟩
  eventSink := false

/-- The number is found in the joined text, and in neither message: the request is said to be
modified, and goes out as it came in. -/
theorem not_redactionAgrees_phone :
    requestPolicy echoEnv {} [⟨.user, "555 123"⟩, ⟨.user, "4567"⟩] =
        ([⟨.user, "555 123"⟩, ⟨.user, "4567"⟩], true) ∧
      ¬ ∀ (messages : List Message) (policy : GatewayPolicy), policy.requestPiiAction = .redact →
        blockedRequest echoEnv policy messages = none →
        RedactionAgrees echoEnv messages none policy none := by
  have unchanged : requestPolicy echoEnv {} [⟨.user, "555 123"⟩, ⟨.user, "4567"⟩] =
      ([⟨.user, "555 123"⟩, ⟨.user, "4567"⟩], true) := by decide
  refine ⟨unchanged, fun h => ?_⟩
  have agrees := h [⟨.user, "555 123"⟩, ⟨.user, "4567"⟩] {} rfl (by decide)
  have modified := agrees.modified
  rw [(runPipeline_sent _ _ (by decide)).2.2, unchanged] at modified
  exact modified.mp rfl rfl

/-- An address and a greeting. -/
theorem redactionAgrees_address :
    RedactionAgrees echoEnv [⟨.system, "Answer a@b.co"⟩, ⟨.user, "I am a@b.co"⟩, ⟨.user, "Hi"⟩] none
      {} none := by
  refine (redactionAgrees_iff rfl rfl (by decide)).mpr
    ⟨[[⟨5, 11, "EMAIL"⟩], []], .cons ?_ (.cons ?_ .nil), ?_⟩
  · have : [⟨5, 11, "EMAIL"⟩] = Span.kept (detected Ucd.ascii none "I am a@b.co") := by decide
    exact this ▸ isSelection_detected_none _
  · have : [] = Span.kept (detected Ucd.ascii none "Hi") := by decide
    exact this ▸ isSelection_detected_none _
  · have : [⟨5, 11, "EMAIL"⟩] = Span.kept (detected Ucd.ascii none "I am a@b.co\nHi") := by decide
    exact this ▸ isSelection_detected_none _

end SentinelAI

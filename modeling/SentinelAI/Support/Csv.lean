import Mathlib.Data.List.Basic
import SentinelAI.Support.Text

/-!
# Support — Csv

Comma-separated values, as Python's `csv` module writes and reads them.  A `Dialect` is a delimiter
and a quote character; rows end with `\r\n`, and a field is quoted where it has to be.

The reader goes through the text line by line, and through each line character by character; a line
end within quotes belongs to the field.  It takes no field longer than a limit.

* `read_writeRows`: what is written is read back, whatever the texts of the fields are, if they are
  within the limit; else nothing is.
-/

namespace Support.Csv

/-- A delimiter and a quote character. -/
structure Dialect where
  delimiter : Char
  quote : Char
  delimiter_ne_quote : delimiter ≠ quote
  delimiter_ne_newline : delimiter ≠ '\n' ∧ delimiter ≠ '\r'
  quote_ne_newline : quote ≠ '\n' ∧ quote ≠ '\r'

/-- The dialect that `csv` takes if none is named. -/
def excel : Dialect := ⟨',', '"', by decide, by decide, by decide⟩

variable (d : Dialect)

/-! ### The writer -/

def special (c : Char) : Bool := c == d.delimiter || c == d.quote || c == '\n' || c == '\r'

/-- Each quote character is written twice. -/
def doubled (s : Str) : Str := s.flatMap fun c => if c = d.quote then [c, c] else [c]

def quoted (s : Str) : Str := d.quote :: doubled d s ++ [d.quote]

/-- `QUOTE_MINIMAL` -/
def writeField (s : Str) : Str := if s.any (special d) then quoted d s else s

/-- `writerow`.  A row of one empty field would look like an empty row; its field is quoted. -/
def writeRow (fields : List Str) : Str :=
  (if fields = [[]] then quoted d [] else join [d.delimiter] (fields.map (writeField d))) ++
    ['\r', '\n']

def writeRows (rows : List (List Str)) : Str := rows.flatMap (writeRow d)

/-! ### The reader -/

/-- Where the reader is in a record. -/
inductive Phase where
  | startRecord
  | startField
  | inField
  | inQuoted
  | quoteInQuoted
  | eatCrnl
deriving DecidableEq, Repr

/-- The reader: the field and the record it is in, and the records before. -/
structure Reader where
  phase : Phase
  field : Str
  fields : List Str
  records : List (List Str)
deriving DecidableEq, Repr

/-- `csv.field_size_limit()`, where nobody sets it. -/
def fieldSizeLimit : Nat := 131072

variable (limit : Nat)

namespace Reader

/-- `parse_save_field` -/
def save (r : Reader) (phase : Phase) : Reader := ⟨phase, [], r.fields ++ [r.field], r.records⟩

/-- `parse_add_char`, which fails on a field that is as long as may be. -/
def add (r : Reader) (c : Char) (phase : Phase) : Option Reader :=
  if r.field.length < limit then some ⟨phase, r.field ++ [c], r.fields, r.records⟩ else none

def isNewline (c : Char) : Bool := c == '\n' || c == '\r'

/-- The first character of a field. -/
def begin (r : Reader) (c : Char) : Option Reader :=
  if isNewline c then some (r.save .eatCrnl)
  else if c = d.quote then some { r with phase := .inQuoted }
  else if c = d.delimiter then some (r.save .startField)
  else r.add limit c .inField

/-- `parse_process_char`, which also fails on text after the end of a record. -/
def process (r : Reader) (c : Char) : Option Reader :=
  match r.phase with
  | .startRecord =>
      if isNewline c then some { r with phase := .eatCrnl } else r.begin d limit c
  | .startField => r.begin d limit c
  | .inField =>
      if isNewline c then some (r.save .eatCrnl)
      else if c = d.delimiter then some (r.save .startField)
      else r.add limit c .inField
  | .inQuoted =>
      if c = d.quote then some { r with phase := .quoteInQuoted } else r.add limit c .inQuoted
  | .quoteInQuoted =>
      if c = d.quote then r.add limit c .inQuoted
      else if c = d.delimiter then some (r.save .startField)
      else if isNewline c then some (r.save .eatCrnl)
      else r.add limit c .inField
  | .eatCrnl => if isNewline c then some r else none

/-- The end of a line: the record is complete, or goes on in the next line. -/
def endLine (r : Reader) : Reader :=
  match r.phase with
  | .inQuoted => r
  | .startRecord | .eatCrnl => ⟨.startRecord, [], [], r.records ++ [r.fields]⟩
  | _ => ⟨.startRecord, [], [], r.records ++ [r.fields ++ [r.field]]⟩

/-- The line ends after `c`, where `s` is the rest of the text. -/
def endsLine (c : Char) (s : Str) : Bool :=
  c == '\n' || (c == '\r' && s.head? != some '\n') || s.isEmpty

def scan (r : Reader) : Str → Option Reader
  | [] => some r
  | c :: s =>
      (r.process d limit c).bind fun r => scan (if endsLine c s then r.endLine else r) s

/-- The end of the text, which also ends a quoted field. -/
def finish (r : Reader) : List (List Str) :=
  if r.phase = .inQuoted then r.records ++ [r.fields ++ [r.field]] else r.records

end Reader

/-- `csv.reader`, or nothing where it raises `csv.Error`. -/
def read (text : Str) : Option (List (List Str)) :=
  (Reader.scan d limit ⟨.startRecord, [], [], []⟩ text).map Reader.finish

/-- Every field is within the limit. -/
def Fits (fields : List Str) : Prop := ∀ t ∈ fields, t.length ≤ limit

instance (fields : List Str) : Decidable (Fits limit fields) :=
  inferInstanceAs (Decidable (∀ t ∈ fields, t.length ≤ limit))

/-! ### What is written is read back -/

section RoundTrip

variable {d limit} {f : Str} {fs : List Str} {rs : List (List Str)}

open Reader

theorem not_isNewline_quote : isNewline d.quote = false := by
  simp [isNewline, d.quote_ne_newline]

theorem not_isNewline_delimiter : isNewline d.delimiter = false := by
  simp [isNewline, d.delimiter_ne_newline]

/-- No line ends after a character that is neither a newline nor the last. -/
theorem not_endsLine {c : Char} (hc : isNewline c = false) {s : Str} (hs : s ≠ []) :
    endsLine c s = false := by
  simp only [isNewline, Bool.or_eq_false_iff] at hc
  simp [endsLine, hc, hs]

/-- One more character and then the rest are within the limit, or the whole is not. -/
theorem ite_length_cons {c : Char} {t : Str} {r : Option Reader} :
    (if f.length < limit then if (f ++ [c]).length + t.length ≤ limit then r else none else none) =
      if f.length + (c :: t).length ≤ limit then r else none := by
  simp only [List.length_cons, List.length_append, List.length_nil]
  by_cases hf : f.length < limit
  · rw [if_pos hf]
    exact if_congr (by omega) rfl rfl
  · rw [if_neg hf, if_neg (by omega)]

/-- Within quotes every other character is the field's, and line ends do not count. -/
theorem scan_inQuoted_cons {c : Char} (hc : c ≠ d.quote) (s : Str) :
    scan d limit ⟨.inQuoted, f, fs, rs⟩ (c :: s) =
      if f.length < limit then scan d limit ⟨.inQuoted, f ++ [c], fs, rs⟩ s else none := by
  by_cases hf : f.length < limit <;> simp [scan, process, hc, add, endLine, hf]

theorem scan_inQuoted_quote {s : Str} (hs : s ≠ []) :
    scan d limit ⟨.inQuoted, f, fs, rs⟩ (d.quote :: s) =
      scan d limit ⟨.quoteInQuoted, f, fs, rs⟩ s := by
  simp [scan, process, not_endsLine not_isNewline_quote hs]

theorem scan_quoteInQuoted_quote {s : Str} (hs : s ≠ []) :
    scan d limit ⟨.quoteInQuoted, f, fs, rs⟩ (d.quote :: s) =
      if f.length < limit then scan d limit ⟨.inQuoted, f ++ [d.quote], fs, rs⟩ s else none := by
  by_cases hf : f.length < limit <;>
    simp [scan, process, add, not_endsLine not_isNewline_quote hs, hf]

/-- The text between the quotes. -/
theorem scan_doubled (t : Str) : ∀ {f s : Str}, f.length ≤ limit → s ≠ [] →
    scan d limit ⟨.inQuoted, f, fs, rs⟩ (doubled d t ++ s) =
      if f.length + t.length ≤ limit then scan d limit ⟨.inQuoted, f ++ t, fs, rs⟩ s else none := by
  induction t with
  | nil =>
      intro f s hf _
      rw [List.append_nil, List.length_nil, Nat.add_zero, if_pos hf]
      rfl
  | cons c t ih =>
      intro f s _ hs
      have rest : doubled d t ++ s ≠ [] := List.append_ne_nil_of_right_ne_nil _ hs
      have one : scan d limit ⟨.inQuoted, f, fs, rs⟩ (doubled d (c :: t) ++ s) =
          if f.length < limit then
            scan d limit ⟨.inQuoted, f ++ [c], fs, rs⟩ (doubled d t ++ s) else none := by
        by_cases hc : c = d.quote
        · subst hc
          have twice : doubled d (d.quote :: t) ++ s =
              d.quote :: d.quote :: (doubled d t ++ s) := by simp [doubled]
          rw [twice, scan_inQuoted_quote (by simp), scan_quoteInQuoted_quote rest]
        · have once : doubled d (c :: t) ++ s = c :: (doubled d t ++ s) := by simp [doubled, hc]
          rw [once, scan_inQuoted_cons hc]
      rw [one]
      refine Eq.trans ?_ ite_length_cons
      by_cases hf : f.length < limit
      · have longer : (f ++ [c]).length ≤ limit := by rwa [List.length_append]
        rw [if_pos hf, if_pos hf, ih longer hs, List.append_assoc, List.singleton_append]
      · rw [if_neg hf, if_neg hf]

/-- Text without special characters. -/
theorem scan_inField (t : Str) (ht : ∀ c ∈ t, special d c = false) :
    ∀ {f s : Str}, f.length ≤ limit → s ≠ [] →
      scan d limit ⟨.inField, f, fs, rs⟩ (t ++ s) =
        if f.length + t.length ≤ limit then scan d limit ⟨.inField, f ++ t, fs, rs⟩ s
        else none := by
  induction t with
  | nil =>
      intro f s hf _
      rw [List.append_nil, List.nil_append, List.length_nil, Nat.add_zero, if_pos hf]
  | cons c t ih =>
      intro f s _ hs
      have hc := ht c List.mem_cons_self
      simp only [special, Bool.or_eq_false_iff, beq_eq_false_iff_ne] at hc
      obtain ⟨⟨⟨hd, -⟩, hn⟩, hr⟩ := hc
      have plain : isNewline c = false := by simp [isNewline, hn, hr]
      have rest : t ++ s ≠ [] := List.append_ne_nil_of_right_ne_nil _ hs
      rw [List.cons_append]
      refine Eq.trans ?_ ite_length_cons
      by_cases hf : f.length < limit
      · have step : scan d limit ⟨.inField, f, fs, rs⟩ (c :: (t ++ s)) =
            scan d limit ⟨.inField, f ++ [c], fs, rs⟩ (t ++ s) := by
          simp [scan, process, plain, hd, add, not_endsLine plain rest, hf]
        have longer : (f ++ [c]).length ≤ limit := by rwa [List.length_append]
        rw [if_pos hf, step, ih (fun c hc => ht c (List.mem_cons_of_mem _ hc)) longer hs,
          List.append_assoc, List.singleton_append]
      · have full : scan d limit ⟨.inField, f, fs, rs⟩ (c :: (t ++ s)) = none := by
          simp [scan, process, plain, hd, add, hf]
        rw [full, if_neg hf]

/-- The phases in which a field is complete up to the character that ends it. -/
inductive Whole : Phase → Str → Phase → Prop where
  | empty {p : Phase} : Whole p [] p
  | plain {p : Phase} {t : Str} : Whole p t .inField
  | quoted {p : Phase} {t : Str} : Whole p t .quoteInQuoted

theorem scan_quoted (t : Str) {p : Phase} (hp : p = .startRecord ∨ p = .startField) {s : Str}
    (hs : s ≠ []) :
    scan d limit ⟨p, [], fs, rs⟩ (quoted d t ++ s) =
      if t.length ≤ limit then scan d limit ⟨.quoteInQuoted, t, fs, rs⟩ s else none := by
  have first : scan d limit ⟨p, [], fs, rs⟩ (d.quote :: (doubled d t ++ d.quote :: s)) =
      scan d limit ⟨.inQuoted, [], fs, rs⟩ (doubled d t ++ d.quote :: s) := by
    rcases hp with rfl | rfl <;>
      simp [scan, process, begin, not_isNewline_quote,
        not_endsLine not_isNewline_quote (s := doubled d t ++ d.quote :: s)]
  rw [quoted, List.append_assoc, List.cons_append, List.singleton_append, first,
    scan_doubled t (Nat.zero_le limit) (List.cons_ne_nil _ _), List.nil_append,
    scan_inQuoted_quote hs, List.length_nil, Nat.zero_add]

/-- A field as it is written is read up to its end, if it is within the limit. -/
theorem scan_writeField (t : Str) {p : Phase} (hp : p = .startRecord ∨ p = .startField) {s : Str}
    (hs : s ≠ []) : ∃ q, Whole p t q ∧
      scan d limit ⟨p, [], fs, rs⟩ (writeField d t ++ s) =
        if t.length ≤ limit then scan d limit ⟨q, t, fs, rs⟩ s else none := by
  unfold writeField
  split
  · exact ⟨.quoteInQuoted, .quoted, scan_quoted t hp hs⟩
  · rename_i h
    have ht : ∀ c ∈ t, special d c = false := by simpa using h
    cases t with
    | nil => exact ⟨p, .empty, (if_pos (Nat.zero_le limit)).symm⟩
    | cons c t =>
        refine ⟨.inField, .plain, ?_⟩
        have hc := ht c List.mem_cons_self
        simp only [special, Bool.or_eq_false_iff, beq_eq_false_iff_ne] at hc
        obtain ⟨⟨⟨hd, hq⟩, hn⟩, hr⟩ := hc
        have plain : isNewline c = false := by simp [isNewline, hn, hr]
        have rest : t ++ s ≠ [] := List.append_ne_nil_of_right_ne_nil _ hs
        rw [List.cons_append]
        by_cases hl : 0 < limit
        · have first : scan d limit ⟨p, [], fs, rs⟩ (c :: (t ++ s)) =
              scan d limit ⟨.inField, [c], fs, rs⟩ (t ++ s) := by
            rcases hp with rfl | rfl <;>
              simp [scan, process, begin, plain, hq, hd, add, not_endsLine plain rest, hl]
          rw [first, scan_inField t (fun c hc => ht c (List.mem_cons_of_mem _ hc)) hl hs,
            List.singleton_append, List.length_singleton, Nat.add_comm, List.length_cons]
        · have full : scan d limit ⟨p, [], fs, rs⟩ (c :: (t ++ s)) = none := by
            rcases hp with rfl | rfl <;> simp [scan, process, begin, plain, hq, hd, add, hl]
          rw [full, if_neg (by rw [List.length_cons]; omega)]

/-- A delimiter ends the field. -/
theorem scan_delimiter {p q : Phase} {t : Str} (hp : p = .startRecord ∨ p = .startField)
    (hq : Whole p t q) {s : Str} (hs : s ≠ []) :
    scan d limit ⟨q, t, fs, rs⟩ (d.delimiter :: s) =
      scan d limit ⟨.startField, [], fs ++ [t], rs⟩ s := by
  have ends := not_endsLine (not_isNewline_delimiter (d := d)) hs
  cases hq with
  | empty =>
      rcases hp with rfl | rfl <;>
        simp [scan, process, begin, save, ends, not_isNewline_delimiter, d.delimiter_ne_quote]
  | plain => simp [scan, process, save, ends, not_isNewline_delimiter]
  | quoted => simp [scan, process, save, ends, d.delimiter_ne_quote]

/-- The end of a row ends the field and the record, but for one that has not begun. -/
theorem scan_crlf {p q : Phase} {t : Str} (hq : Whole p t q)
    (hp : p = .startField ∨ (p = .startRecord ∧ q ≠ .startRecord)) (s : Str) :
    scan d limit ⟨q, t, fs, rs⟩ ('\r' :: '\n' :: s) =
      scan d limit ⟨.startRecord, [], [], rs ++ [fs ++ [t]]⟩ s := by
  have hcr : '\r' ≠ d.quote ∧ '\r' ≠ d.delimiter :=
    ⟨fun h => d.quote_ne_newline.2 h.symm, fun h => d.delimiter_ne_newline.2 h.symm⟩
  cases hq with
  | empty =>
      obtain rfl := hp.resolve_right fun h => h.2 h.1
      simp [scan, process, begin, save, isNewline, endsLine, endLine]
  | plain => simp [scan, process, save, isNewline, endsLine, endLine]
  | quoted => simp [scan, process, save, isNewline, endsLine, endLine, hcr]

theorem join_map_cons (t t' : Str) (ts : List Str) (s : Str) :
    join [d.delimiter] ((t :: t' :: ts).map (writeField d)) ++ s =
      writeField d t ++
        d.delimiter :: (join [d.delimiter] ((t' :: ts).map (writeField d)) ++ s) := by
  simp [join, List.intercalate]

theorem fits_nil : Fits limit [] := List.forall_mem_nil _

/-- The first field decides, or the others do. -/
theorem ite_fits_cons {t : Str} {ts : List Str} {r : Option Reader} :
    (if t.length ≤ limit then if Fits limit ts then r else none else none) =
      if Fits limit (t :: ts) then r else none := by
  by_cases ht : t.length ≤ limit
  · rw [if_pos ht]
    have rest : Fits limit ts ↔ Fits limit (t :: ts) :=
      ⟨fun h => List.forall_mem_cons.mpr ⟨ht, h⟩, fun h => (List.forall_mem_cons.mp h).2⟩
    exact if_congr rest rfl rfl
  · rw [if_neg ht, if_neg fun h => ht (h t List.mem_cons_self)]

/-- The fields of a row from the second on, and its end. -/
theorem scan_fields : ∀ (ts : List Str) {fs : List Str} (t : Str) (s : Str),
    scan d limit ⟨.startField, [], fs, rs⟩
        (join [d.delimiter] ((t :: ts).map (writeField d)) ++ '\r' :: '\n' :: s) =
      if Fits limit (t :: ts) then
        scan d limit ⟨.startRecord, [], [], rs ++ [fs ++ t :: ts]⟩ s else none
  | [], fs, t, s => by
      obtain ⟨q, hq, h⟩ := @scan_writeField d limit fs rs t _ (.inr rfl) _
        (List.cons_ne_nil '\r' ('\n' :: s))
      rw [List.map_singleton, join, List.intercalate_singleton, h, scan_crlf hq (.inl rfl),
        ← ite_fits_cons, if_pos fits_nil]
  | t' :: ts, fs, t, s => by
      obtain ⟨q, hq, h⟩ := @scan_writeField d limit fs rs t _ (.inr rfl) _
        (List.cons_ne_nil d.delimiter
          (join [d.delimiter] ((t' :: ts).map (writeField d)) ++ '\r' :: '\n' :: s))
      rw [join_map_cons, h, scan_delimiter (.inr rfl) hq (by simp), scan_fields ts, ite_fits_cons,
        List.append_assoc, List.singleton_append]

/-- One row. -/
theorem scan_writeRow (row : List Str) (s : Str) :
    scan d limit ⟨.startRecord, [], [], rs⟩ (writeRow d row ++ s) =
      if Fits limit row then scan d limit ⟨.startRecord, [], [], rs ++ [row]⟩ s else none := by
  have crlf : ∀ l : Str, l ++ ['\r', '\n'] ++ s = l ++ '\r' :: '\n' :: s := by simp
  rw [writeRow, crlf]
  split
  · -- the one empty field is quoted
    rename_i h
    rw [h, scan_quoted [] (.inl rfl) (List.cons_ne_nil _ _),
      scan_crlf (p := .startRecord) .quoted (.inr ⟨rfl, by simp⟩), List.nil_append,
      ← ite_fits_cons, if_pos fits_nil]
  · rename_i h
    match row, h with
    | [], _ => simp [Fits, join, scan, process, isNewline, endsLine, endLine]
    | [t], h =>
        obtain ⟨q, hq, hscan⟩ := @scan_writeField d limit [] rs t _ (.inl rfl) _
          (List.cons_ne_nil '\r' ('\n' :: s))
        have begun : q ≠ .startRecord := by
          cases hq with
          | empty => exact absurd rfl h
          | plain => simp
          | quoted => simp
        rw [List.map_singleton, join, List.intercalate_singleton, hscan,
          scan_crlf hq (.inr ⟨rfl, begun⟩), List.nil_append, ← ite_fits_cons,
          if_pos fits_nil]
    | t :: t' :: ts, _ =>
        obtain ⟨q, hq, hscan⟩ := @scan_writeField d limit [] rs t _ (.inl rfl) _
          (List.cons_ne_nil d.delimiter
            (join [d.delimiter] ((t' :: ts).map (writeField d)) ++ '\r' :: '\n' :: s))
        rw [join_map_cons, hscan, scan_delimiter (.inl rfl) hq (by simp), scan_fields,
          ite_fits_cons, List.nil_append, List.singleton_append]

theorem scan_writeRows : ∀ (rows : List (List Str)) {rs : List (List Str)},
    scan d limit ⟨.startRecord, [], [], rs⟩ (writeRows d rows) =
      if ∀ row ∈ rows, Fits limit row then some ⟨.startRecord, [], [], rs ++ rows⟩ else none
  | [], rs => by rw [List.append_nil, if_pos (by simp)]; rfl
  | row :: rows, rs => by
      rw [writeRows, List.flatMap_cons, scan_writeRow, ← writeRows, scan_writeRows rows,
        List.append_assoc, List.singleton_append]
      by_cases hr : Fits limit row <;> simp [hr]

/-- **Round trip.**  What is written is read back if every field is within the limit, and the reader
fails on anything else that is written. -/
theorem read_writeRows (rows : List (List Str)) : read d limit (writeRows d rows) =
    if ∀ row ∈ rows, Fits limit row then some rows else none := by
  rw [read, scan_writeRows]
  split <;> rfl

end RoundTrip

end Support.Csv

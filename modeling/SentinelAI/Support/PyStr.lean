import SentinelAI.Support.Text

/-!
# Support — PyStr

Python's `str` in full.  Beside characters, a Python string may hold lone surrogates, which are no
characters and have no UTF-8 encoding: `str.encode("utf-8")` raises `UnicodeEncodeError` on them.
The strings without one are the texts (`Str`).

* `encode?_eq_some_iff`: a string has an encoding if it is a text, and that text is encoded.
* `lower_ofStr`, `utf8_lower`: the lowercase of a text, and of any string.
* `render_join`, `utf8_join`: a joined string, and its parts.
-/

namespace Support

/-- A code point of a Python string. -/
inductive CodePoint where
  | char (c : Char)
  /-- U+D800, and the 2047 code points behind it. -/
  | surrogate (i : Fin 0x800)
deriving DecidableEq, Repr

def CodePoint.char? : CodePoint → Option Char
  | .char c => some c
  | .surrogate _ => none

/-- A Python string. -/
abbrev PyStr := List CodePoint

namespace PyStr

/-- The string of a text. -/
def ofStr (s : Str) : PyStr := s.map .char

/-- `s` has a UTF-8 encoding. -/
def Utf8 (s : PyStr) : Prop := ∀ p ∈ s, p.char?.isSome = true

instance (s : PyStr) : Decidable (Utf8 s) :=
  inferInstanceAs (Decidable (∀ p ∈ s, p.char?.isSome = true))

/-- The text that `s.encode("utf-8")` encodes, or nothing where it raises `UnicodeEncodeError`. -/
def encode? (s : PyStr) : Option Str := s.mapM CodePoint.char?

/-- `s` with each lone surrogate in it replaced. -/
def render (replacement : Fin 0x800 → Str) (s : PyStr) : Str := s.flatMap fun
  | .char c => [c]
  | .surrogate i => replacement i

/-- What `json.dumps` writes for a lone surrogate. -/
def escape (i : Fin 0x800) : Str := "\\u".toList ++ Nat.toDigits 16 (0xd800 + i)

/-- `s` as `json.dumps` writes it. -/
def escaped (s : PyStr) : Str := render escape s

/-- U+FFFD.  Like a lone surrogate it is no letter, no digit and no white space, and has no case. -/
def replace (_ : Fin 0x800) : Str := ['\uFFFD']

/-- `s` as a check reads it that asks only for letters, digits, white space and signs of ASCII. -/
def replaced (s : PyStr) : Str := render replace s

/-- `str.lower` on what follows `pre`.  A lone surrogate has no case. -/
def lowerFrom (U : Ucd) : PyStr → PyStr → PyStr
  | _, [] => []
  | pre, .char c :: post =>
      ofStr (U.lowerChar (replaced pre) c (replaced post)) ++ lowerFrom U (.char c :: pre) post
  | pre, .surrogate i :: post => .surrogate i :: lowerFrom U (.surrogate i :: pre) post

/-- `str.lower` -/
def lower (U : Ucd) (s : PyStr) : PyStr := lowerFrom U [] s

/-- `sep.join(parts)` -/
def join (sep : PyStr) (parts : List PyStr) : PyStr := List.intercalate sep parts

variable {f : Fin 0x800 → Str} {s : PyStr} {t : Str}

@[simp] theorem render_nil : render f [] = [] := rfl

@[simp] theorem render_char (c : Char) : render f (.char c :: s) = c :: render f s := rfl

@[simp] theorem render_append (s s' : PyStr) : render f (s ++ s') = render f s ++ render f s' :=
  List.flatMap_append

@[simp] theorem render_ofStr (t : Str) : render f (ofStr t) = t := by
  induction t with
  | nil => rfl
  | cons c t ih => exact congrArg (c :: ·) ih

@[simp] theorem escaped_ofStr (t : Str) : escaped (ofStr t) = t := render_ofStr t

@[simp] theorem replaced_ofStr (t : Str) : replaced (ofStr t) = t := render_ofStr t

theorem ofStr_injective : Function.Injective ofStr := fun t t' h => by
  rw [← render_ofStr (f := fun _ => []) t, h, render_ofStr]

/-! ### Strings with an encoding -/

@[simp] theorem utf8_nil : Utf8 [] := nofun

@[simp] theorem utf8_char {c : Char} : Utf8 (.char c :: s) ↔ Utf8 s :=
  List.forall_mem_cons.trans (and_iff_right rfl)

@[simp] theorem not_utf8_surrogate {i : Fin 0x800} : ¬ Utf8 (.surrogate i :: s) :=
  fun h => Bool.false_ne_true (h _ List.mem_cons_self)

@[simp] theorem utf8_append {s s' : PyStr} : Utf8 (s ++ s') ↔ Utf8 s ∧ Utf8 s' :=
  List.forall_mem_append

@[simp] theorem utf8_ofStr (t : Str) : Utf8 (ofStr t) := by
  induction t with
  | nil => exact utf8_nil
  | cons c t ih => exact utf8_char.mpr ih

theorem ofStr_render (h : Utf8 s) : ofStr (render f s) = s := by
  induction s with
  | nil => rfl
  | cons p s ih =>
      cases p with
      | char c => exact congrArg (CodePoint.char c :: ·) (ih (utf8_char.mp h))
      | surrogate i => exact absurd h not_utf8_surrogate

theorem encode?_of_utf8 (h : Utf8 s) : encode? s = some (escaped s) := by
  induction s with
  | nil => rfl
  | cons p s ih =>
      cases p with
      | char c =>
          rw [encode?, List.mapM_cons, ← encode?, ih (utf8_char.mp h)]
          rfl
      | surrogate i => exact absurd h not_utf8_surrogate

theorem encode?_of_not_utf8 (h : ¬ Utf8 s) : encode? s = none := by
  induction s with
  | nil => exact absurd utf8_nil h
  | cons p s ih =>
      rw [encode?, List.mapM_cons, ← encode?]
      cases p with
      | char c =>
          rw [ih fun hs => h (utf8_char.mpr hs)]
          rfl
      | surrogate i => rfl

/-- **A string has an encoding if it is a text**, and it is that text which is encoded. -/
theorem encode?_eq_some_iff : encode? s = some t ↔ s = ofStr t := by
  constructor
  · intro h
    by_cases hs : Utf8 s
    · rw [encode?_of_utf8 hs] at h
      rw [← Option.some.inj h, escaped, ofStr_render hs]
    · rw [encode?_of_not_utf8 hs] at h
      cases h
  · rintro rfl
    rw [encode?_of_utf8 (utf8_ofStr t), escaped_ofStr]

/-! ### Lowercase -/

theorem lowerFrom_ofStr (U : Ucd) : ∀ pre t : Str,
    lowerFrom U (ofStr pre) (ofStr t) = ofStr (U.lowerFrom pre t)
  | _, [] => rfl
  | pre, c :: t => by
      have rest := lowerFrom_ofStr U (c :: pre) t
      calc lowerFrom U (ofStr pre) (ofStr (c :: t))
          = ofStr (U.lowerChar (replaced (ofStr pre)) c (replaced (ofStr t))) ++
              lowerFrom U (ofStr (c :: pre)) (ofStr t) := rfl
        _ = ofStr (U.lowerFrom pre (c :: t)) := by
            rw [replaced_ofStr, replaced_ofStr, rest, Ucd.lowerFrom, ofStr, ofStr, ofStr,
              List.map_append]

/-- **A text in lowercase** is its lowercase as a text. -/
theorem lower_ofStr (U : Ucd) (t : Str) : lower U (ofStr t) = ofStr (U.lower t) :=
  lowerFrom_ofStr U [] t

theorem utf8_lowerFrom (U : Ucd) : ∀ pre s : PyStr, Utf8 (lowerFrom U pre s) ↔ Utf8 s
  | _, [] => Iff.rfl
  | pre, .char c :: s => by
      rw [lowerFrom, utf8_append, and_iff_right (utf8_ofStr _), utf8_char,
        utf8_lowerFrom U (.char c :: pre) s]
  | pre, .surrogate i :: s => iff_of_false not_utf8_surrogate not_utf8_surrogate

/-- Lowercasing neither brings nor takes a lone surrogate. -/
@[simp] theorem utf8_lower {U : Ucd} : Utf8 (lower U s) ↔ Utf8 s := utf8_lowerFrom U [] s

/-! ### Joined strings -/

theorem join_cons_cons (sep p q : PyStr) (parts : List PyStr) :
    join sep (p :: q :: parts) = p ++ (sep ++ join sep (q :: parts)) := by
  rw [join, List.intercalate_cons_cons, List.append_assoc, ← join]

theorem render_join (sep : PyStr) : ∀ parts : List PyStr,
    render f (join sep parts) = Support.join (render f sep) (parts.map (render f))
  | [] => rfl
  | [p] => by simp [join, Support.join]
  | p :: q :: parts => by
      rw [join_cons_cons, render_append, render_append, render_join sep (q :: parts)]
      simp [Support.join, List.intercalate_cons_cons]

theorem utf8_join {sep : PyStr} (h : Utf8 sep) : ∀ {parts : List PyStr},
    Utf8 (join sep parts) ↔ ∀ p ∈ parts, Utf8 p
  | [] => iff_of_true utf8_nil nofun
  | [p] => by simp [join]
  | p :: q :: parts => by
      rw [join_cons_cons, utf8_append, utf8_append, and_iff_right h, utf8_join h,
        List.forall_mem_cons (a := p)]

end PyStr

end Support

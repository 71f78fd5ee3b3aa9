import SentinelAI.Support.Text
import Mathlib.Data.Rat.Defs

/-!
# Support — Json

JSON-like Python values: what a handler returns and a JSON column holds, with date-times as they
are before serialisation.
-/

namespace Support

/-- A point in time, in microseconds since the epoch, UTC. -/
abbrev Time := Int

/-- A JSON-like value.  An object is the list of its items, in insertion order. -/
inductive Json where
  | null
  | bool (b : Bool)
  | int (n : Int)
  | num (q : Rat)
  | str (s : Str)
  | time (t : Time)
  | arr (xs : List Json)
  | obj (items : List (Str × Json))

/-- A number in at least `width` digits. -/
def zfill (width : Nat) (n : Int) : Str :=
  List.replicate (width - (strInt n).length) '0' ++ strInt n

/-- `datetime.isoformat` of a time in UTC.  The days since 1 March of year 0 are counted in eras of
400 years. -/
def isoformat (t : Time) : Str :=
  let days := t.fdiv 86400000000 + 719468
  let rest := t.fmod 86400000000
  let era := days.fdiv 146097
  let doe := days.fmod 146097
  let yoe := (doe - doe / 1460 + doe / 36524 - doe / 146096) / 365
  let doy := doe - (365 * yoe + yoe / 4 - yoe / 100)
  let mp := (5 * doy + 2) / 153
  let day := doy - (153 * mp + 2) / 5 + 1
  let month := if mp < 10 then mp + 3 else mp - 9
  let year := yoe + era * 400 + if month ≤ 2 then 1 else 0
  let sec := rest / 1000000
  let micro := rest % 1000000
  let date := zfill 4 year ++ "-".toList ++ zfill 2 month ++ "-".toList ++ zfill 2 day
  let clock := zfill 2 (sec / 3600) ++ ":".toList ++ zfill 2 (sec / 60 % 60) ++ ":".toList ++
    zfill 2 (sec % 60)
  let fraction := if micro = 0 then [] else '.' :: zfill 6 micro
  date ++ "T".toList ++ clock ++ fraction ++ "+00:00".toList

example : isoformat 1709208000000001 = "2024-02-29T12:00:00.000001+00:00".toList := by decide

namespace Json

/-- `None` or a value. -/
def opt {α : Type*} (f : α → Json) : Option α → Json
  | none => null
  | some a => f a

/-- A list of strings. -/
def strs (l : List Str) : Json := arr (l.map str)

/-- `d[key]`, or `None` where there is none. -/
def get (d : Json) (key : Str) : Json :=
  match d with
  | obj items => (items.lookup key).getD null
  | _ => null

/-- The elements of a list. -/
def elems : Json → List Json
  | arr xs => xs
  | _ => []

/-- The items of a dictionary. -/
def items : Json → List (Str × Json)
  | obj items => items
  | _ => []

/-- `bool(v)` -/
def truthy : Json → Bool
  | null => false
  | bool b => b
  | int n => n != 0
  | num q => q != 0
  | str s => s != []
  | time _ => true
  | arr xs => !xs.isEmpty
  | obj items => !items.isEmpty

/-- `v or w` -/
def or (v w : Json) : Json := if v.truthy then v else w

/-- `v is None` -/
def isNull : Json → Bool
  | null => true
  | _ => false

/-- `f"{v}"`, where `pyStr` is `str` of a list, a dictionary, a float or a date-time. -/
def format (pyStr : Json → Str) : Json → Str
  | null => "None"
  | bool true => "True"
  | bool false => "False"
  | int n => strInt n
  | str s => s
  | v => pyStr v

end Json

/-- What reading a value of the wrong shape raises. -/
inductive PyError where
  | KeyError (key : Str)
  | AttributeError
  | TypeError

namespace Json

/-- `d[key]` for a text `key`. -/
def item (d : Json) (key : Str) : Except PyError Json :=
  match d with
  | obj items =>
      match items.lookup key with
      | some v => .ok v
      | none => .error (.KeyError key)
  | _ => .error .TypeError

/-- `d.get(key, default)` -/
def getOr (d : Json) (key : Str) (default : Json) : Except PyError Json :=
  match d with
  | obj items => .ok ((items.lookup key).getD default)
  | _ => .error .AttributeError

/-- `1 - v` -/
def oneMinus : Json → Except PyError Json
  | int n => .ok (int (1 - n))
  | num q => .ok (num (1 - q))
  | bool b => .ok (int (if b then 0 else 1))
  | _ => .error .TypeError

end Json

/-! ### Computations that may raise -/

universe u

theorem bind_eq_ok {ε : Type*} {α β : Type u} {x : Except ε α} {f : α → Except ε β} {b : β} :
    (x >>= f) = .ok b ↔ ∃ a, x = .ok a ∧ f a = .ok b := by
  cases x with
  | error e => exact ⟨fun h => (nomatch h), fun ⟨_, h, _⟩ => (nomatch h)⟩
  | ok a => exact ⟨fun h => ⟨a, rfl, h⟩, fun ⟨_, ha, h⟩ => Except.ok.inj ha ▸ h⟩

namespace Json

/-- `isinstance(d, dict)` -/
def isObj : Json → Bool
  | obj _ => true
  | _ => false

/-- `d` is a dictionary with the key. -/
def has (d : Json) (key : Str) : Bool :=
  match d with
  | obj items => (items.lookup key).isSome
  | _ => false

theorem getOr_null_eq_ok {d : Json} {key : Str} {v : Json} :
    d.getOr key .null = .ok v ↔ d.isObj = true ∧ v = d.get key := by
  cases d <;> simp [getOr, isObj, get, eq_comm]

theorem item_eq_ok {d : Json} {key : Str} {v : Json} :
    d.item key = .ok v ↔ d.has key = true ∧ v = d.get key := by
  cases d with
  | obj items => cases h : items.lookup key <;> simp [item, has, get, h, eq_comm]
  | _ => simp [item, has]

theorem has_of_get_not_null {d : Json} {key : Str} (h : (d.get key).isNull = false) :
    d.has key = true := by
  cases d with
  | obj items =>
      cases hl : items.lookup key with
      | none => simp [get, hl, isNull] at h
      | some v => simp [has, hl]
  | _ => cases h

end Json

end Support

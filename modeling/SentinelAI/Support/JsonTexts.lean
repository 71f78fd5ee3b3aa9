import SentinelAI.Support.Json

/-!
# Support — JsonTexts

The texts in a JSON-like value, and a value whose texts are changed one by one.

* `mapStr f` applies `f` to each text that stands as a value, together with the key it stands under.
* `mapStr_mapStr`: two changes, one after the other, are one.
* `exists_of_textAt_mapStr`: the texts of a changed value are the changed texts.
-/

namespace Support.Json

/-! ### Induction on values -/

/-- A property that passes from the elements of a list to it, and from the values of a dictionary
to it. -/
@[elab_as_elim]
theorem induct {P : Json → Prop} (null : P .null) (bool : ∀ b, P (.bool b)) (int : ∀ n, P (.int n))
    (num : ∀ q, P (.num q)) (str : ∀ s, P (.str s)) (time : ∀ t, P (.time t))
    (arr : ∀ xs, (∀ x ∈ xs, P x) → P (.arr xs))
    (obj : ∀ items, (∀ kv ∈ items, P kv.2) → P (.obj items)) : ∀ v, P v :=
  @Json.rec P (fun xs => ∀ x ∈ xs, P x) (fun items => ∀ kv ∈ items, P kv.2) (fun kv => P kv.2)
    null bool int num str time arr obj (fun _ h => (nomatch h))
    (fun _ _ h hs => List.forall_mem_cons.mpr ⟨h, hs⟩) (fun _ h => (nomatch h))
    (fun _ _ h hs => List.forall_mem_cons.mpr ⟨h, hs⟩) fun _ _ h => h

/-! ### Changing the texts -/

variable (f g : Option Str → Str → Str)

mutual

/-- The value that stands under `key`, with its texts changed. -/
def mapStr (key : Option Str) : Json → Json
  | .str s => .str (f key s)
  | .arr xs => .arr (mapElems xs)
  | .obj items => .obj (mapItems items)
  | v => v

def mapElems : List Json → List Json
  | [] => []
  | x :: xs => mapStr none x :: mapElems xs

def mapItems : List (Str × Json) → List (Str × Json)
  | [] => []
  | (k, x) :: items => (k, mapStr (some k) x) :: mapItems items

end

theorem mapElems_eq (xs : List Json) : mapElems f xs = xs.map (mapStr f none) := by
  induction xs with
  | nil => rfl
  | cons x xs ih => rw [mapElems, ih, List.map_cons]

theorem mapItems_eq (items : List (Str × Json)) :
    mapItems f items = items.map fun kv => (kv.1, mapStr f (some kv.1) kv.2) := by
  induction items with
  | nil => rfl
  | cons kv items ih => rw [mapItems, ih, List.map_cons]

/-- **Two changes** are one. -/
theorem mapStr_mapStr (key : Option Str) (v : Json) :
    mapStr f key (mapStr g key v) = mapStr (fun k s => f k (g k s)) key v := by
  induction v using induct generalizing key with
  | arr xs ih =>
      simp only [mapStr, mapElems_eq, List.map_map]
      exact congrArg _ (List.map_congr_left fun x hx => ih x hx none)
  | obj items ih =>
      simp only [mapStr, mapItems_eq, List.map_map]
      exact congrArg _ (List.map_congr_left fun kv hkv => congrArg _ (ih kv hkv (some kv.1)))
  | _ => rfl

/-! ### The texts -/

/-- Where a text stands: as the key of an item, or as a value, under a key or under none. -/
inductive Place where
  | key
  | under (key : Option Str)

/-- The text `s` stands at a place of a value that itself stands under a key or under none. -/
inductive TextAt (s : Str) : Place → Option Str → Json → Prop where
  | str (key : Option Str) : TextAt s (.under key) key (.str s)
  | key {v : Json} {items : List (Str × Json)} {key : Option Str} (h : (s, v) ∈ items) :
      TextAt s .key key (.obj items)
  | elem {p : Place} {x : Json} {xs : List Json} {key : Option Str} (h : x ∈ xs)
      (hx : TextAt s p none x) : TextAt s p key (.arr xs)
  | item {p : Place} {k : Str} {x : Json} {items : List (Str × Json)} {key : Option Str}
      (h : (k, x) ∈ items) (hx : TextAt s p (some k) x) : TextAt s p key (.obj items)

variable {f}

/-- **The texts of a changed value** are the changed texts. -/
theorem exists_of_textAt_mapStr {t : Str} {k key : Option Str} {v : Json}
    (h : TextAt t (.under k) key (mapStr f key v)) :
    ∃ s, TextAt s (.under k) key v ∧ f k s = t := by
  induction v using induct generalizing key with
  | arr xs ih =>
      rw [mapStr, mapElems_eq] at h
      cases h with
      | elem hm hx =>
          obtain ⟨x, hmem, rfl⟩ := List.mem_map.mp hm
          obtain ⟨s, hs, he⟩ := ih x hmem hx
          exact ⟨s, .elem hmem hs, he⟩
  | obj items ih =>
      rw [mapStr, mapItems_eq] at h
      cases h with
      | item hm hx =>
          obtain ⟨kv, hmem, he⟩ := List.mem_map.mp hm
          cases he
          obtain ⟨s, hs, he⟩ := ih kv hmem hx
          exact ⟨s, .item hmem hs, he⟩
  | str s =>
      cases h
      exact ⟨s, .str k, rfl⟩
  | _ => cases h

end Support.Json

import SentinelAI.Support.Table

/-!
# Support — Trail

Tables that keep a trail: `Evolves R t t'` says that the rows of `t` are in `t'`, in their places,
each changed as `R` allows; new rows come behind them.  `Retains t t'` says less, that rows may go
but those that stay are as they were.

* `Evolves.insert`, `Evolves.modify`: what an `INSERT` and an `UPDATE` have to satisfy.
* `Evolves.trans`, `Retains.trans`: so trails run through any number of writes.
-/

namespace Support

variable {ρ : Type*} [Row ρ]

/-- The rows of `t` are where they were in `t'`, changed as `R` allows. -/
def Evolves (R : ρ → ρ → Prop) (t t' : Table ρ) : Prop :=
  ∀ (i : ℕ) (r : ρ), t.rows[i]? = some r → ∃ r', t'.rows[i]? = some r' ∧ R r r'

namespace Evolves

variable {R : ρ → ρ → Prop} {t t' t'' : Table ρ}

theorem refl (hR : ∀ r, R r r) (t : Table ρ) : Evolves R t t := fun _ r h => ⟨r, h, hR r⟩

theorem trans (hR : ∀ r s u, R r s → R s u → R r u) (h : Evolves R t t') (h' : Evolves R t' t'') :
    Evolves R t t'' := by
  intro i r hr
  obtain ⟨s, hs, hrs⟩ := h i r hr
  obtain ⟨u, hu, hsu⟩ := h' i s hs
  exact ⟨u, hu, hR r s u hrs hsu⟩

theorem of_begins (hR : ∀ r, R r r) (h : t.rows <+: t'.rows) : Evolves R t t' := by
  intro i r hr
  obtain ⟨new, hnew⟩ := h
  obtain ⟨hi, -⟩ := List.getElem?_eq_some_iff.mp hr
  exact ⟨r, by rw [← hnew, List.getElem?_append_left hi, hr], hR r⟩

theorem insert (hR : ∀ r, R r r) (t : Table ρ) (r : ρ) : Evolves R t (t.insert r) :=
  of_begins hR (List.prefix_append _ _)

theorem modify (hR : ∀ r, R r r) {i : Int} {g : ρ → ρ}
    (hg : ∀ r ∈ t.rows, Row.key r = i → R r (Row.setKey i (g r))) : Evolves R t (t.modify i g) := by
  intro j r hr
  refine ⟨if Row.key r = i then Row.setKey i (g r) else r, ?_, ?_⟩
  · rw [Table.modify, List.getElem?_map, hr]
    rfl
  · split
    · rename_i hk
      exact hg r (List.mem_of_getElem? hr) hk
    · exact hR r

theorem exists_of_mem (h : Evolves R t t') {r : ρ} (hr : r ∈ t.rows) : ∃ r' ∈ t'.rows, R r r' := by
  obtain ⟨i, hi⟩ := List.getElem?_of_mem hr
  obtain ⟨r', hr', hR⟩ := h i r hi
  exact ⟨r', List.mem_of_getElem? hr', hR⟩

end Evolves

/-- Some of the rows of `t` are the first of `t'`, as they were and in their order. -/
def Retains (t t' : Table ρ) : Prop := ∃ kept : List ρ, kept.Sublist t.rows ∧ kept <+: t'.rows

namespace Retains

variable {t t' t'' : Table ρ}

theorem refl (t : Table ρ) : Retains t t := ⟨t.rows, List.Sublist.refl _, List.prefix_rfl⟩

theorem trans (h : Retains t t') (h' : Retains t' t'') : Retains t t'' := by
  obtain ⟨kept, hk, new, hnew⟩ := h
  obtain ⟨kept', hk', hp⟩ := h'
  rw [← hnew] at hk'
  -- of what was kept at last, some was there at first and the rest is new
  obtain ⟨a, b, rfl, ha, -⟩ := List.sublist_append_iff.mp hk'
  exact ⟨a, ha.trans hk, (List.prefix_append a b).trans hp⟩

theorem insert (t : Table ρ) (r : ρ) : Retains t (t.insert r) :=
  ⟨t.rows, List.Sublist.refl _, List.prefix_append _ _⟩

theorem deleteWhere (t : Table ρ) (p : ρ → Bool) : Retains t (t.deleteWhere p) :=
  ⟨_, List.filter_sublist, List.prefix_rfl⟩

end Retains

end Support

import Mathlib.Data.List.Basic

/-!
# Support — Session

Programs that use one database session.  What a program changes is held by the session until it is
committed; a commit that fails ends the program, and what was not committed is lost.  A record is a
write of best effort: it is added, committed and read back at once, and where one of the three
fails, the session is rolled back and the program goes on.

A program reads the database through `view`, which shows no records.

* `Prog.Tidy`: no change is pending where something is recorded.
* `Prog.Tidy.exec_congr`: the result of a tidy program, and what the view shows of the database
  after it, do not depend on which records fail.
* `Prog.Tidy.exec_eq_direct`: a tidy program whose commits go through leaves what its writes leave,
  one after the other, in a database without sessions.
-/

namespace Support

variable {σ β α γ : Type}

/-- How a record fails: when it is added, when it is committed, or when it is read back. -/
inductive RecordFault where
  | add
  | commit
  | refresh
deriving DecidableEq, Repr

/-- The row of a record that fails to be read back is there. -/
def RecordFault.drops : Option RecordFault → Bool
  | some .add | some .commit => true
  | some .refresh | none => false

structure Faults where
  /-- Commit `i` of the program fails. -/
  commit : Nat → Bool
  /-- Record `i` of the program fails. -/
  record : Nat → Option RecordFault

/-- Nothing fails. -/
def Faults.none : Faults := ⟨fun _ => false, fun _ => .none⟩

structure Session (σ : Type) where
  committed : σ
  /-- What is committed, and what is pending. -/
  held : σ

namespace Session

/-- A session on the database `d`. -/
def opened (d : σ) : Session σ := ⟨d, d⟩

/-- The session after a record. -/
def afterRecord (s : Session σ) (f : σ → σ) : Option RecordFault → Session σ
  | .none => ⟨f s.held, f s.held⟩
  -- the commit has gone through, and the rollback finds nothing pending
  | some .refresh => ⟨f s.held, f s.held⟩
  | some .add | some .commit => ⟨s.committed, s.committed⟩

end Session

/-- A program that uses a session. -/
inductive Prog (σ β α : Type) where
  | ret (a : α)
  | read (k : β → Prog σ β α)
  | write (f : σ → σ) (k : Prog σ β α)
  /-- Commit `i`. -/
  | commit (i : Nat) (k : Prog σ β α)
  /-- Record `i`. -/
  | record (i : Nat) (f : σ → σ) (k : Prog σ β α)
  /-- An exception that nothing catches. -/
  | raise

namespace Prog

def bind : Prog σ β α → (α → Prog σ β γ) → Prog σ β γ
  | ret a, k => k a
  | read p, k => read fun v => (p v).bind k
  | write f p, k => write f (p.bind k)
  | commit i p, k => commit i (p.bind k)
  | record i f p, k => record i f (p.bind k)
  | raise, _ => raise

instance : Monad (Prog σ β) where
  pure := ret
  bind := bind

/-- What the view shows. -/
def get : Prog σ β β := read ret

def put (f : σ → σ) : Prog σ β Unit := write f (ret ())

def save (i : Nat) : Prog σ β Unit := commit i (ret ())

def log (i : Nat) (f : σ → σ) : Prog σ β Unit := record i f (ret ())

/-- The value, or an exception. -/
def orRaise : Option α → Prog σ β α
  | some a => ret a
  | none => raise

variable (view : σ → β)

/-- The result, if there is one, and the session at the end. -/
def exec (fl : Faults) : Prog σ β α → Session σ → Option α × Session σ
  | ret a, s => (some a, s)
  | read k, s => (k (view s.held)).exec fl s
  | write f k, s => k.exec fl { s with held := f s.held }
  | commit i k, s => if fl.commit i then (none, s) else k.exec fl { s with committed := s.held }
  | record i f k, s => k.exec fl (s.afterRecord f (fl.record i))
  | raise, s => (none, s)

/-- The result of a program on the database `d`, and the database after it. -/
def run (fl : Faults) (p : Prog σ β α) (d : σ) : Option α × σ :=
  ((p.exec view fl (.opened d)).1, (p.exec view fl (.opened d)).2.committed)

/-- The program in a database without sessions, which drops the records that `drops` says. -/
def direct (drops : Nat → Bool) : Prog σ β α → σ → Option α × σ
  | ret a, d => (some a, d)
  | read k, d => (k (view d)).direct drops d
  | write f k, d => k.direct drops (f d)
  | commit _ k, d => k.direct drops d
  | record i f k, d => k.direct drops (if drops i then d else f d)
  | raise, d => (none, d)

/-- What the view shows after `f` depends on what it shows before. -/
def Stable (f : σ → σ) : Prop := ∀ d₁ d₂, view d₁ = view d₂ → view (f d₁) = view (f d₂)

/-- No change is pending where something is recorded, and the view shows no record.  A change may be
pending before the program where `pending` is true, and after it where `pending'` is. -/
def Tidy : Prog σ β α → (pending pending' : Bool) → Prop
  | ret _, pending, pending' => pending = true → pending' = true
  | read k, pending, pending' => ∀ v, (k v).Tidy pending pending'
  | write f k, _, pending' => Stable view f ∧ k.Tidy true pending'
  | commit _ k, _, pending' => k.Tidy false pending'
  | record _ f k, pending, pending' =>
      pending = false ∧ (∀ d, view (f d) = view d) ∧ k.Tidy false pending'
  | raise, _, _ => True

variable {view}

/-! ### Tidy programs -/

namespace Tidy

variable {p : Prog σ β α} {b b₁ b₂ : Bool}

theorem pure (a : α) : (Pure.pure a : Prog σ β α).Tidy view b b := id

/-- Where a change may be pending, none has to be. -/
theorem of_pending (hp : p.Tidy view true b₂) : p.Tidy view b b₂ := by
  induction p generalizing b with
  | ret a => exact fun _ => hp rfl
  | read k ih => exact fun v => ih v (hp v)
  | write f k ih => exact hp
  | commit i k ih => exact hp
  | record i f k ih => cases hp.1
  | raise => trivial

theorem bind (hp : p.Tidy view b b₁) {k : α → Prog σ β γ} (hk : ∀ a, (k a).Tidy view b₁ b₂) :
    (p >>= k).Tidy view b b₂ := by
  change (p.bind k).Tidy view b b₂
  induction p generalizing b with
  | ret a =>
      cases b₁ with
      | true => exact (hk a).of_pending
      | false =>
          obtain rfl : b = false := Bool.eq_false_iff.mpr fun h => nomatch hp h
          exact hk a
  | read p ih => exact fun v => ih v (hp v)
  | write f p ih => exact ⟨hp.1, ih hp.2⟩
  | commit i p ih => exact ih hp
  | record i f p ih => exact ⟨hp.1, hp.2.1, ih hp.2.2⟩
  | raise => trivial

theorem get : (Prog.get : Prog σ β β).Tidy view b b := fun _ => id

theorem put {f : σ → σ} (hf : Stable view f) : (Prog.put f : Prog σ β Unit).Tidy view b true :=
  ⟨hf, id⟩

theorem save (i : Nat) : (Prog.save i : Prog σ β Unit).Tidy view b false := fun h => nomatch h

theorem log (i : Nat) {f : σ → σ} (hf : ∀ d, view (f d) = view d) :
    (Prog.log i f : Prog σ β Unit).Tidy view false false := ⟨rfl, hf, id⟩

theorem orRaise : ∀ a : Option α, (Prog.orRaise a : Prog σ β α).Tidy view b b
  | some _ => id
  | none => trivial

end Tidy

/-! ### One program after another -/

section Bind

variable {fl : Faults} {s s' : Session σ} {p : Prog σ β α} {k : α → Prog σ β γ}

theorem exec_bind {a : α} (h : p.exec view fl s = (some a, s')) :
    (p >>= k).exec view fl s = (k a).exec view fl s' := by
  change (p.bind k).exec view fl s = _
  induction p generalizing s with
  | ret a' =>
      cases h
      rfl
  | read p ih => exact ih _ h
  | write f p ih => exact ih h
  | commit i p ih =>
      simp only [bind, exec] at h ⊢
      split
      · rename_i hc
        rw [if_pos hc] at h
        cases h
      · rename_i hc
        rw [if_neg hc] at h
        exact ih h
  | record i f p ih => exact ih h
  | raise => cases h

/-- After an exception nothing is done. -/
theorem exec_bind_none (h : p.exec view fl s = (none, s')) :
    (p >>= k).exec view fl s = (none, s') := by
  change (p.bind k).exec view fl s = _
  induction p generalizing s with
  | ret a' => cases h
  | read p ih => exact ih _ h
  | write f p ih => exact ih h
  | commit i p ih =>
      simp only [bind, exec] at h ⊢
      split
      · rename_i hc
        rw [if_pos hc] at h
        cases h
        rfl
      · rename_i hc
        rw [if_neg hc] at h
        exact ih h
  | record i f p ih => exact ih h
  | raise =>
      cases h
      rfl

end Bind

/-! ### Programs that change nothing -/

variable (view) in
/-- Nothing is written but records. -/
def Watches : Prog σ β α → Prop
  | ret _ | raise => True
  | read k => ∀ v, (k v).Watches
  | write _ _ | commit _ _ => False
  | record _ f k => (∀ d, view (f d) = view d) ∧ k.Watches

namespace Watches

variable {p : Prog σ β α}

theorem pure (a : α) : (Pure.pure a : Prog σ β α).Watches view := trivial

theorem bind (hp : p.Watches view) {k : α → Prog σ β γ} (hk : ∀ a, (k a).Watches view) :
    (p >>= k).Watches view := by
  change (p.bind k).Watches view
  induction p with
  | ret a => exact hk a
  | read p ih => exact fun v => ih v (hp v)
  | write f p ih => exact hp.elim
  | commit i p ih => exact hp.elim
  | record i f p ih => exact ⟨hp.1, ih hp.2⟩
  | raise => trivial

theorem get : (Prog.get : Prog σ β β).Watches view := fun _ => trivial

theorem log (i : Nat) {f : σ → σ} (hf : ∀ d, view (f d) = view d) :
    (Prog.log i f : Prog σ β Unit).Watches view := ⟨hf, trivial⟩

theorem orRaise : ∀ a : Option α, (Prog.orRaise a : Prog σ β α).Watches view
  | some _ => trivial
  | none => trivial

end Watches

/-! ### Programs without sessions -/

section Direct

variable {drops : Nat → Bool} {d d' : σ}

/-- One program after another. -/
theorem direct_bind {p : Prog σ β α} {k : α → Prog σ β γ} {a : α}
    (h : p.direct view drops d = (some a, d')) :
    (p >>= k).direct view drops d = (k a).direct view drops d' := by
  change (p.bind k).direct view drops d = _
  induction p generalizing d with
  | ret a' =>
      cases h
      rfl
  | read p ih => exact ih _ h
  | write f p ih => exact ih h
  | commit i p ih => exact ih h
  | record i f p ih => exact ih h
  | raise => cases h

@[simp] theorem direct_pure (a : α) :
    (Pure.pure a : Prog σ β α).direct view drops d = (some a, d) := rfl

theorem direct_get : (Prog.get : Prog σ β β).direct view drops d = (some (view d), d) := rfl

theorem direct_put (f : σ → σ) :
    (Prog.put f : Prog σ β Unit).direct view drops d = (some (), f d) := rfl

theorem direct_save (i : Nat) :
    (Prog.save i : Prog σ β Unit).direct view drops d = (some (), d) := rfl

theorem direct_log (i : Nat) (f : σ → σ) :
    (Prog.log i f : Prog σ β Unit).direct view drops d =
      (some (), if drops i then d else f d) := rfl

end Direct

/-! ### Running tidy programs -/

/-- The view shows the same in two sessions. -/
structure SameView (view : σ → β) (s₁ s₂ : Session σ) : Prop where
  committed : view s₁.committed = view s₂.committed
  held : view s₁.held = view s₂.held

/-- The view shows no pending change. -/
def Clean (view : σ → β) (s : Session σ) : Prop := view s.committed = view s.held

/-- A record changes nothing that the view shows, where nothing is pending. -/
theorem view_afterRecord {s : Session σ} (hs : Clean view s) {f : σ → σ}
    (hf : ∀ d, view (f d) = view d) (fault : Option RecordFault) :
    view (s.afterRecord f fault).committed = view s.committed ∧
      view (s.afterRecord f fault).held = view s.committed := by
  match fault with
  | some .add | some .commit => exact ⟨rfl, rfl⟩
  | some .refresh | none => exact ⟨(hf _).trans hs.symm, (hf _).trans hs.symm⟩

/-- What the view shows is left by a program that writes records only. -/
theorem Watches.view_committed {fl : Faults} {p : Prog σ β α} (hp : p.Watches view) {s : Session σ}
    (hs : Clean view s) : view (p.exec view fl s).2.committed = view s.committed := by
  induction p generalizing s with
  | ret a | raise => rfl
  | read k ih => exact ih _ (hp _) hs
  | write f k ih => exact hp.elim
  | commit i k ih => exact hp.elim
  | record i f k ih =>
      have shows := view_afterRecord hs hp.1 (fl.record i)
      exact (ih hp.2 (shows.1.trans shows.2.symm)).trans shows.1

/-- **Records never interfere.**  Two runs of a tidy program in which the same commits fail have one
result, and the view shows the same after them. -/
theorem Tidy.exec_congr {fl₁ fl₂ : Faults} (hc : fl₁.commit = fl₂.commit) {p : Prog σ β α}
    {b b' : Bool} (hp : p.Tidy view b b') {s₁ s₂ : Session σ} (hs : SameView view s₁ s₂)
    (h₁ : b = false → Clean view s₁) (h₂ : b = false → Clean view s₂) :
    (p.exec view fl₁ s₁).1 = (p.exec view fl₂ s₂).1 ∧
      SameView view (p.exec view fl₁ s₁).2 (p.exec view fl₂ s₂).2 := by
  induction p generalizing b s₁ s₂ with
  | ret a => exact ⟨rfl, hs⟩
  | read k ih =>
      simp only [exec, hs.held]
      exact ih _ (hp _) hs h₁ h₂
  | write f k ih =>
      exact ih hp.2 ⟨hs.committed, hp.1 _ _ hs.held⟩ (fun h => nomatch h) (fun h => nomatch h)
  | commit i k ih =>
      simp only [exec, hc]
      split
      · exact ⟨rfl, hs⟩
      · exact ih hp ⟨hs.held, hs.held⟩ (fun _ => rfl) (fun _ => rfl)
  | record i f k ih =>
      obtain ⟨hb, hf, hk⟩ := hp
      have shows₁ := view_afterRecord (h₁ hb) hf (fl₁.record i)
      have shows₂ := view_afterRecord (h₂ hb) hf (fl₂.record i)
      refine ih hk ⟨?_, ?_⟩ (fun _ => ?_) (fun _ => ?_)
      · rw [shows₁.1, shows₂.1, hs.committed]
      · rw [shows₁.2, shows₂.2, hs.committed]
      · exact shows₁.1.trans shows₁.2.symm
      · exact shows₂.1.trans shows₂.2.symm
  | raise => exact ⟨rfl, hs⟩

/-- The same, for a database. -/
theorem Tidy.run_congr {fl₁ fl₂ : Faults} (hc : fl₁.commit = fl₂.commit) {p : Prog σ β α}
    {b : Bool} (hp : p.Tidy view false b) (d : σ) :
    (p.run view fl₁ d).1 = (p.run view fl₂ d).1 ∧
      view (p.run view fl₁ d).2 = view (p.run view fl₂ d).2 := by
  let s : Session σ := .opened d
  have same : SameView view s s := ⟨rfl, rfl⟩
  have ran := hp.exec_congr hc same (fun _ => rfl) fun _ => rfl
  exact ⟨ran.1, ran.2.committed⟩

/-- **Sessions.**  Where no commit fails, a tidy program leaves what it leaves in a database without
sessions. -/
theorem Tidy.exec_eq_direct {fl : Faults} (hc : ∀ i, fl.commit i = false) {p : Prog σ β α}
    {b : Bool} (hp : p.Tidy view b false) {s : Session σ} (hs : b = false → s.committed = s.held)
    {a : α} (ha : (p.direct view (fun i => RecordFault.drops (fl.record i)) s.held).1 = some a) :
    p.exec view fl s = (some a,
      .opened (p.direct view (fun i => RecordFault.drops (fl.record i)) s.held).2) := by
  induction p generalizing b s with
  | ret a' =>
      obtain rfl : a' = a := Option.some.inj ha
      obtain rfl : b = false := Bool.eq_false_iff.mpr fun h => nomatch hp h
      obtain ⟨committed, held⟩ := s
      obtain rfl : committed = held := hs rfl
      rfl
  | read k ih => exact ih _ (hp _) hs ha
  | write f k ih => exact ih hp.2 (fun h => nomatch h) ha
  | commit i k ih =>
      simp only [exec, hc, Bool.false_eq_true, if_false]
      exact ih hp (fun _ => rfl) ha
  | record i f k ih =>
      obtain ⟨hb, -, hk⟩ := hp
      have clean : s.committed = s.held := hs hb
      have after : s.afterRecord f (fl.record i) =
          .opened (if RecordFault.drops (fl.record i) then s.held else f s.held) := by
        match fl.record i with
        | some .add | some .commit => simp [Session.afterRecord, RecordFault.drops, clean,
            Session.opened]
        | some .refresh | none => simp [Session.afterRecord, RecordFault.drops, Session.opened]
      simp only [exec, direct, after] at ha ⊢
      exact ih hk (fun _ => rfl) ha
  | raise => cases ha

theorem Tidy.run_eq_direct {fl : Faults} (hc : ∀ i, fl.commit i = false) {p : Prog σ β α}
    (hp : p.Tidy view false false) {d d' : σ} {a : α}
    (h : p.direct view (fun i => RecordFault.drops (fl.record i)) d = (some a, d')) :
    p.run view fl d = (some a, d') := by
  have ran := hp.exec_eq_direct hc (s := .opened d) (fun _ => rfl) (congrArg Prod.fst h)
  rw [run, ran]
  exact congrArg (Prod.mk (some a)) (congrArg Prod.snd h)

end Prog

end Support

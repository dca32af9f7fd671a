import CifsdVfs.Dcache
import CifsdVfs.Vfs.Namei
import Mathlib.Logic.Relation

/-!
# Helpers running side by side

The third meaning of the helpers: server threads run them at once over one dentry cache.  Each
kernel call is one atomic step of one thread.  `Sys` is what the threads share: the cache, the
holder of each directory's `i_mutex` and the holder of the rename mutex.  A thread that asks for
a mutex another thread holds cannot step; every other call behaves as in `Dcache.kernel`.

The parent-directory locks are meant to keep a discipline (`Sys.Disciplined`): a thread passes
`vfs_unlink`, `vfs_rmdir` or `vfs_rename` the current parent of the dentry it removes or moves,
and holds that parent's mutex; and a thread unlocks only the mutexes it holds.

`smb_vfs_unlink` and `smb_vfs_rmdir` read `d_parent` to lock it, then read it again for the call
and again for the unlock.  A rename by another thread between the first read and the lock moves
the dentry: the thread locks the old parent, passes the new one, which it does not hold, to
`vfs_unlink`, and unlocks the new one, leaving the old one locked (`unlink_race`).
`smb_vfs_rename` by handle reads the source's parent before `lock_rename`, and passes that stale
parent to `vfs_rename` (`renameByFid_race`).  Both runs are written out step by step.
-/

namespace CifsdVfs
open Relation

/-! ## Partial runs -/

namespace Prog
variable {σ α : Type} (K : Kernel σ)

/-- From `s`, the program `p` can get to the rest `p'` of itself, in the state `s'`. -/
inductive Steps : Prog α → σ → Prog α → σ → Prop
  | refl (p : Prog α) (s : σ) : Steps p s p s
  | call {o : Op} {k : o.Res → Prog α} {r : o.Res} {s s' s'' : σ} {p' : Prog α} :
      K s o r s' → Steps (k r) s' p' s'' → Steps (.call o k) s p' s''

variable {K}

theorem Steps.trans {p p' p'' : Prog α} {s s' s'' : σ} (h : p.Steps K s p' s')
    (h' : p'.Steps K s' p'' s'') : p.Steps K s p'' s'' := by
  induction h with
  | refl => exact h'
  | call hk _ ih => exact .call hk (ih h')

end Prog

/-! ## The shared state -/

/-- What the server threads share: the dentry cache, the holder of the `i_mutex` of each
directory, and the holder of the filesystem's rename mutex. -/
@[ext] structure Sys where
  cache : Dcache
  owner : Dentry → Option Nat
  renamer : Option Nat

namespace Sys
variable (s : Sys)

/-- Thread `t` takes the `i_mutex` of `d`. -/
def lock (t : Nat) (d : Dentry) : Sys := { s with owner := Function.update s.owner d (some t) }

/-- The `i_mutex` of `d` is released. -/
def unlock (d : Dentry) : Sys := { s with owner := Function.update s.owner d none }

/-- The kernel seen by thread `t`.  `mutex_lock` and `lock_rename` wait until their mutexes are
free and take them; the unlocks release them, whoever holds them; every other call is
`Dcache.kernel` on the cache. -/
def kernel (t : Nat) (s : Sys) : (o : Op) → o.Res → Sys → Prop
  | .mutexLock (.iMutex d), _, s' => s.owner d = none ∧ s' = s.lock t d
  | .mutexUnlock (.iMutex d), _, s' => s' = s.unlock d
  | .lockRename p1 p2, r, s' => s.owner p1 = none ∧ s.owner p2 = none ∧
      (p1 = p2 ∨ s.renamer = none) ∧ s.cache.Trap p1 p2 r ∧
      s' = { (s.lock t p1).lock t p2 with renamer := if p1 = p2 then s.renamer else some t }
  | .unlockRename p1 p2, _, s' =>
      s' = { (s.unlock p1).unlock p2 with renamer := if p1 = p2 then s.renamer else none }
  | o, r, s' => ∃ c', s.cache.kernel o r c' ∧ s' = { s with cache := c' }

/-- The parent-directory discipline, for thread `t` about to make the call `o`.  The target of a
rename is removed only when it is positive, so only then must its parent be current. -/
def Disciplined (t : Nat) : Op → Prop
  | .vfsUnlink dir d | .vfsRmdir dir d => s.cache.parent d = dir ∧ s.owner dir = some t
  | .vfsRename oldDir old newDir new => s.cache.parent old = oldDir ∧ s.owner oldDir = some t ∧
      (s.cache.positive new = true → s.cache.parent new = newDir) ∧ s.owner newDir = some t
  | .mutexUnlock (.iMutex d) => s.owner d = some t
  | .unlockRename p1 p2 => s.owner p1 = some t ∧ s.owner p2 = some t
  | _ => True

/-- The lock half of the discipline: the directories thread `t` passes to a removal or a rename,
and the mutexes it releases, are ones it holds. -/
def Holds (t : Nat) : Op → Prop
  | .vfsUnlink dir _ | .vfsRmdir dir _ => s.owner dir = some t
  | .vfsRename oldDir _ newDir _ => s.owner oldDir = some t ∧ s.owner newDir = some t
  | .mutexUnlock (.iMutex d) => s.owner d = some t
  | .unlockRename p1 p2 => s.owner p1 = some t ∧ s.owner p2 = some t
  | _ => True

theorem Disciplined.holds {t : Nat} {o : Op} (h : s.Disciplined t o) : s.Holds t o := by
  cases o <;> try trivial
  all_goals first
    | exact h.2
    | exact ⟨h.2.1, h.2.2.2⟩
    | exact h
    | (rename_i m; cases m <;> exact h)

/-- A configuration: the shared state and the rest of each thread's helper. -/
abbrev Config := Sys × (Nat → Prog Int)

/-- One step of the server: thread `t` makes its next call. -/
inductive Step : Config → Config → Prop
  | call {s s' : Sys} {ps : Nat → Prog Int} {t : Nat} {o : Op} {k : o.Res → Prog Int}
      {r : o.Res} :
      ps t = .call o k → s.kernel t o r s' → Step (s, ps) (s', Function.update ps t (k r))

end Sys

/-- Steps of one thread are steps of the server. -/
theorem Prog.Steps.reach {t : Nat} {ps : Nat → Prog Int} {p : Prog Int} (hp : ps t = p)
    {p' : Prog Int} {s s' : Sys} (h : p.Steps (Sys.kernel t) s p' s') :
    ReflTransGen Sys.Step (s, ps) (s', Function.update ps t p') := by
  induction h generalizing ps with
  | refl => rw [← hp, Function.update_eq_self]
  | call hk _ ih =>
    refine .head (.call hp hk) ?_
    simpa using ih (Function.update_same t _ ps)

/-- In the configuration `c`, thread `t` is about to make the call `o` against the discipline. -/
def Sys.Breaks (c : Sys.Config) (t : Nat) (o : Op) : Prop :=
  (∃ k, c.2 t = .call o k) ∧ ¬ c.1.Disciplined t o

/-! ## The steps of the shared kernel, in the form in which `RG` meets them -/

/-- The calls that wait for or release a directory mutex or the rename mutex. -/
@[reducible] def Op.locksDir : Op → Bool
  | .mutexLock (.iMutex _) | .mutexUnlock (.iMutex _) | .lockRename .. | .unlockRename .. => true
  | _ => false

/-- The calls that can wait: `mutex_lock` of a directory, and `lock_rename`. -/
@[reducible] def Op.waits : Op → Bool
  | .mutexLock (.iMutex _) | .lockRename .. => true
  | _ => false

theorem Op.waits_cases {o : Op} (h : o.waits = true) :
    (∃ d, o = .mutexLock (.iMutex d)) ∨ ∃ p1 p2, o = .lockRename p1 p2 := by
  cases o <;> try cases h
  · rename_i m; cases m <;> first | exact .inl ⟨_, rfl⟩ | cases h
  · exact .inr ⟨_, _, rfl⟩

namespace Sys
variable {s : Sys} {t : Nat}

@[simp] theorem mk_cache_owner_renamer (s : Sys) : Sys.mk s.cache s.owner s.renamer = s := rfl

theorem kernel_of_locksDir {o : Op} (h : o.locksDir = false) (r : o.Res) (s' : Sys) :
    s.kernel t o r s' ↔ ∃ c', s.cache.kernel o r c' ∧ s' = { s with cache := c' } := by
  cases o <;> first | exact Iff.rfl | cases h | (rename_i m; cases m <;> first | exact Iff.rfl | cases h)

theorem forall_kernel_cache {o : Op} (h : o.locksDir = false) {F : o.Res → Sys → Prop} :
    (∀ r s', s.kernel t o r s' → F r s') ↔ ∀ r c', s.cache.kernel o r c' → F r { s with cache := c' } := by
  simp only [kernel_of_locksDir h, forall_exists_index, and_imp]
  exact ⟨fun hF r c' hc => hF r _ c' hc rfl, fun hF r _ c' hc he => he ▸ hF r c' hc⟩

theorem forall_kernel_untouched {o : Op} (h : o.locksDir = false) (h' : o.touchesDcache = false)
    {F : o.Res → Sys → Prop} : (∀ r s', s.kernel t o r s' → F r s') ↔ ∀ r, F r s := by
  rw [forall_kernel_cache h, Dcache.forall_kernel_untouched h']

@[simp] theorem forall_kernel_dParent {d : Dentry} {F : Dentry → Sys → Prop} :
    (∀ r s', s.kernel t (.dParent d) r s' → F r s') ↔ F (s.cache.parent d) s := by
  rw [forall_kernel_cache rfl, Dcache.forall_kernel_dParent]

@[simp] theorem forall_kernel_dNegative {d : Dentry} {F : Bool → Sys → Prop} :
    (∀ r s', s.kernel t (.dNegative d) r s' → F r s') ↔ F (!s.cache.positive d) s := by
  rw [forall_kernel_cache rfl, Dcache.forall_kernel_dNegative]

@[simp] theorem forall_kernel_lookupOneLen {name : CStr} {base : Dentry}
    {F : Except Int Dentry → Sys → Prop} :
    (∀ r s', s.kernel t (.lookupOneLen name base) r s' → F r s') ↔
      (∀ e, F (.error e) s) ∧ ∀ d c', s.cache.Alloc base d c' → F (.ok d) { s with cache := c' } := by
  rw [forall_kernel_cache rfl, Dcache.forall_kernel_lookupOneLen]

@[simp] theorem forall_kernel_vfsRename {oldDir old newDir new : Dentry} {F : Int → Sys → Prop} :
    (∀ r s', s.kernel t (.vfsRename oldDir old newDir new) r s' → F r s') ↔ (∀ r, F r s) ∧
      (old ≠ new → s.cache.positive old = true → s.cache.parent old = oldDir → oldDir ≠ old →
        s.cache.parent new = newDir → newDir ≠ new →
          F 0 { s with cache := s.cache.dMove old new }) := by
  rw [forall_kernel_cache rfl, Dcache.forall_kernel_vfsRename]

@[simp] theorem forall_kernel_vfsUnlink {dir d : Dentry} {F : Int → Sys → Prop} :
    (∀ r s', s.kernel t (.vfsUnlink dir d) r s' → F r s') ↔
      (∀ r, F r s) ∧ F 0 { s with cache := s.cache.setPositive d false } := by
  rw [forall_kernel_cache rfl]
  exact ⟨fun h => ⟨fun r => h r _ (Or.inl rfl), h 0 _ (Or.inr ⟨rfl, rfl⟩)⟩,
    fun h r c' => by rintro (rfl | ⟨rfl, rfl⟩); exacts [h.1 r, h.2]⟩

@[simp] theorem forall_kernel_vfsRmdir {dir d : Dentry} {F : Int → Sys → Prop} :
    (∀ r s', s.kernel t (.vfsRmdir dir d) r s' → F r s') ↔
      (∀ r, F r s) ∧ F 0 { s with cache := s.cache.setPositive d false } := by
  rw [forall_kernel_cache rfl]
  exact ⟨fun h => ⟨fun r => h r _ (Or.inl rfl), h 0 _ (Or.inr ⟨rfl, rfl⟩)⟩,
    fun h r c' => by rintro (rfl | ⟨rfl, rfl⟩); exacts [h.1 r, h.2]⟩

@[simp] theorem forall_kernel_mutexLock {d : Dentry} {F : Unit → Sys → Prop} :
    (∀ r s', s.kernel t (.mutexLock (.iMutex d)) r s' → F r s') ↔
      (s.owner d = none → F () (s.lock t d)) :=
  ⟨fun h hd => h () _ ⟨hd, rfl⟩, fun h _ _ ⟨hd, he⟩ => he ▸ h hd⟩

@[simp] theorem forall_kernel_mutexUnlock {d : Dentry} {F : Unit → Sys → Prop} :
    (∀ r s', s.kernel t (.mutexUnlock (.iMutex d)) r s' → F r s') ↔ F () (s.unlock d) :=
  ⟨fun h => h () _ rfl, fun h _ _ he => he ▸ h⟩

@[simp] theorem forall_kernel_lockRename {p1 p2 : Dentry} {F : Option Dentry → Sys → Prop} :
    (∀ r s', s.kernel t (.lockRename p1 p2) r s' → F r s') ↔
      ∀ r, s.owner p1 = none → s.owner p2 = none → (p1 = p2 ∨ s.renamer = none) →
        s.cache.Trap p1 p2 r →
        F r { (s.lock t p1).lock t p2 with renamer := if p1 = p2 then s.renamer else some t } :=
  ⟨fun h r h1 h2 h3 h4 => h r _ ⟨h1, h2, h3, h4, rfl⟩,
    fun h r _ ⟨h1, h2, h3, h4, he⟩ => he ▸ h r h1 h2 h3 h4⟩

@[simp] theorem forall_kernel_unlockRename {p1 p2 : Dentry} {F : Unit → Sys → Prop} :
    (∀ r s', s.kernel t (.unlockRename p1 p2) r s' → F r s') ↔
      F () { (s.unlock p1).unlock p2 with renamer := if p1 = p2 then s.renamer else none } :=
  ⟨fun h => h () _ rfl, fun h _ _ he => he ▸ h⟩

/-- A call that does not wait always has an answer. -/
theorem exists_kernel {o : Op} (h : o.waits = false) : ∃ r s', s.kernel t o r s' := by
  cases hl : o.locksDir
  · obtain ⟨r, c', hc⟩ := s.cache.exists_kernel o
    exact ⟨r, _, (kernel_of_locksDir hl r _).2 ⟨c', hc, rfl⟩⟩
  · -- the unlocks; the other calls are excluded by `h` or by `hl`
    cases o <;> first
      | exact ⟨(), _, rfl⟩
      | (cases h; done)
      | cases hl
      | (rename_i m; cases m <;> first | exact ⟨(), _, rfl⟩ | (cases h; done) | cases hl)

end Sys

/-! ## Rely and guarantee

A thread is read on its own, with the other threads as interference: `Prog.RG` follows every
run of a helper in which, before each of its calls, the others take any steps the rely `R`
allows.  Each call must meet `P` in the state it is made in, each step of the helper must be
within its guarantee `G`, and the helper must end in `Q`.  When each thread's guarantee is
within the rely of every other, the whole server keeps every thread's `P` (`Sys.Sound.reach`).
-/

namespace Prog
variable {σ α β : Type} (K : Kernel σ) (R G : σ → σ → Prop) (P : σ → Op → Prop)

/-- `p` run from `s` among other threads, read through the rely `R` and the guarantee `G`. -/
def RG : Prog α → σ → (α → σ → Prop) → Prop
  | .ret a, s, Q => Q a s
  | .call o k, s, Q => ∀ s₀, R s s₀ → P s₀ o ∧ ∀ r s', K s₀ o r s' → G s₀ s' ∧ (k r).RG s' Q

variable {K R G P}

@[simp] theorem rg_ret (a : α) (s : σ) (Q : α → σ → Prop) :
    (Prog.ret a).RG K R G P s Q ↔ Q a s := Iff.rfl

@[simp] theorem rg_call (o : Op) (k : o.Res → Prog α) (s : σ) (Q : α → σ → Prop) :
    (Prog.call o k).RG K R G P s Q ↔
      ∀ s₀, R s s₀ → P s₀ o ∧ ∀ r s', K s₀ o r s' → G s₀ s' ∧ (k r).RG K R G P s' Q := Iff.rfl

@[simp] theorem rg_ite (c : Prop) [Decidable c] (p q : Prog α) (s : σ) (Q : α → σ → Prop) :
    (if c then p else q).RG K R G P s Q ↔ (c → p.RG K R G P s Q) ∧ (¬c → q.RG K R G P s Q) := by
  split_ifs with h <;> simp [h]

theorem rg_bind (p : Prog α) (f : α → Prog β) (s : σ) (Q : β → σ → Prop) :
    (p.bind f).RG K R G P s Q ↔ p.RG K R G P s fun a s' => (f a).RG K R G P s' Q := by
  induction p generalizing s with
  | ret a => rfl
  | call o k ih => simp only [call_bind, rg_call, ih]

theorem RG.mono {p : Prog α} {s : σ} {Q Q' : α → σ → Prop} (h : p.RG K R G P s Q)
    (hQ : ∀ a s', Q a s' → Q' a s') : p.RG K R G P s Q' := by
  induction p generalizing s with
  | ret a => exact hQ a s h
  | call o k ih => exact fun s₀ h₀ => ⟨(h s₀ h₀).1, fun r s' hk =>
      ⟨((h s₀ h₀).2 r s' hk).1, ih r ((h s₀ h₀).2 r s' hk).2⟩⟩

/-- Sequencing: run `p` to a midpoint `Q'`, then `f` from there. -/
theorem RG.seq {p : Prog α} {f : α → Prog β} {s : σ} {Q' : α → σ → Prop} {Q : β → σ → Prop}
    (h : p.RG K R G P s Q') (hf : ∀ a s', Q' a s' → (f a).RG K R G P s' Q) :
    (p.bind f).RG K R G P s Q :=
  (rg_bind p f s Q).2 (h.mono hf)

/-- Steps of the others keep a thread correct, when its end condition survives them. -/
theorem RG.rely (hR : Transitive R) {Q : α → σ → Prop} (hQ : ∀ a s s', R s s' → Q a s → Q a s')
    {p : Prog α} {s s' : σ} (h : p.RG K R G P s Q) (hs : R s s') : p.RG K R G P s' Q := by
  cases p with
  | ret a => exact hQ a s s' hs h
  | call o k => exact fun s₀ h₀ => h s₀ (hR hs h₀)

end Prog

namespace Sys

/-- What a step of thread `u` may do to the others: take free mutexes and release only its own;
move only a dentry that is negative or whose parent it holds; make no dentry positive, and make
one negative only under a parent it holds; hand the rename mutex to no other thread. -/
structure Guar (u : Nat) (s s' : Sys) : Prop where
  owner : ∀ x, s'.owner x = s.owner x ∨ s.owner x = none ∧ s'.owner x = some u ∨
    s.owner x = some u ∧ s'.owner x = none
  parent : ∀ d, s'.cache.parent d = s.cache.parent d ∨ s.cache.positive d = false ∨
    s.owner (s.cache.parent d) = some u
  positive : ∀ d, s'.cache.positive d = true → s.cache.positive d = true
  negative : ∀ d, s.cache.positive d = true → s'.cache.positive d = false →
    s.owner (s.cache.parent d) = some u
  renamer : ∀ v, s'.renamer = some v → s.renamer = some v ∨ v = u

@[simp] theorem guar_self (u : Nat) (s : Sys) : Guar u s s :=
  ⟨fun _ => Or.inl rfl, fun _ => Or.inl rfl, fun _ h => h, fun _ h h' => absurd h (by simp [h']),
    fun _ h => Or.inl h⟩

section OwnSteps
variable {u t : Nat} {s s' : Sys} {d : Dentry}

/-- A step that only takes free mutexes and releases its own is within the guarantee. -/
theorem Guar.of_owner (hc : s'.cache = s.cache)
    (hr : ∀ v, s'.renamer = some v → s.renamer = some v ∨ v = u) (ho : ∀ x, s'.owner x = s.owner x ∨
    s.owner x = none ∧ s'.owner x = some u ∨ s.owner x = some u ∧ s'.owner x = none) :
    Guar u s s' :=
  ⟨ho, fun _ => Or.inl (by rw [hc]), fun _ h => by rwa [hc] at h,
    fun _ h h' => (by rw [hc, h] at h'; cases h'), hr⟩

theorem guar_lock (h : s.owner d = none) : Guar t s (s.lock t d) :=
  .of_owner rfl (fun _ h => .inl h) fun x => by
    by_cases hx : x = d
    · subst hx; simp [lock, h]
    · simp [lock, hx]

theorem guar_unlock (h : s.owner d = some t) : Guar t s (s.unlock d) :=
  .of_owner rfl (fun _ h => .inl h) fun x => by
    by_cases hx : x = d
    · subst hx; simp [unlock, h]
    · simp [unlock, hx]

theorem guar_lockRename {p1 p2 : Dentry} (h1 : s.owner p1 = none) (h2 : s.owner p2 = none) :
    Guar t s { (s.lock t p1).lock t p2 with renamer := if p1 = p2 then s.renamer else some t } :=
  .of_owner rfl (fun _ h => by
    dsimp only at h; split_ifs at h; exacts [.inl h, .inr (Option.some.inj h).symm]) fun x => by
    by_cases hx2 : x = p2
    · subst hx2; simp [lock, h2]
    by_cases hx1 : x = p1
    · subst hx1; simp [lock, h1, hx2]
    · simp [lock, hx1, hx2]

theorem guar_unlockRename {p1 p2 : Dentry} (h1 : s.owner p1 = some t)
    (h2 : s.owner p2 = some t) :
    Guar t s { (s.unlock p1).unlock p2 with renamer := if p1 = p2 then s.renamer else none } :=
  .of_owner rfl (fun _ h => by dsimp only at h; split_ifs at h; exact .inl h) fun x => by
    by_cases hx2 : x = p2
    · subst hx2; simp [unlock, h2]
    by_cases hx1 : x = p1
    · subst hx1; simp [unlock, h1, hx2]
    · simp [unlock, hx1, hx2]

/-- A lookup hangs at most a fresh, negative dentry. -/
theorem guar_alloc {base : Dentry} {c' : Dcache} (ha : s.cache.Alloc base d c') :
    Guar t s { s with cache := c' } := by
  obtain ⟨-, ⟨-, rfl⟩ | ⟨hf, rfl⟩⟩ := ha
  · exact guar_self t s
  refine ⟨fun _ => Or.inl rfl, fun x => ?_, fun _ h => h, fun _ h h' => (by
    simp only [Dcache.attach] at h'; rw [h] at h'; cases h'), fun _ h => .inl h⟩
  by_cases hx : x = d
  · subst hx; exact Or.inr (Or.inl hf.1)
  · exact Or.inl (Function.update_noteq hx _ _)

/-- `d_move` under both parents the thread holds. -/
theorem guar_dMove {old new : Dentry} (ho : s.owner (s.cache.parent old) = some t)
    (hn : s.owner (s.cache.parent new) = some t) :
    Guar t s { s with cache := s.cache.dMove old new } := by
  refine ⟨fun _ => Or.inl rfl, fun x => ?_, fun x h => ?_, fun x h h' => ?_, fun _ h => .inl h⟩ <;>
    simp only [Dcache.dMove] at *
  · split_ifs with h1 h2
    · subst h1; exact Or.inr (Or.inr ho)
    · subst h2; exact Or.inr (Or.inr hn)
    · exact Or.inl rfl
  · split_ifs at h with h1
    exact h
  · split_ifs at h' with h1
    · subst h1; exact hn
    · rw [h] at h'; cases h'

/-- A removal makes `d` negative under a parent the thread holds. -/
theorem guar_setNegative (h : s.owner (s.cache.parent d) = some t) :
    Guar t s { s with cache := s.cache.setPositive d false } := by
  refine ⟨fun _ => Or.inl rfl, fun _ => Or.inl rfl, fun x h' => ?_, fun x h' h'' => ?_,
    fun _ h => .inl h⟩ <;> simp only [Dcache.setPositive, Function.update_apply] at *
  · split_ifs at h' with hx
    exact h'
  · split_ifs at h'' with hx
    · subst hx; exact h
    · rw [h'] at h''; cases h''

end OwnSteps

/-- The rely of thread `t`: any steps of the other threads, each within its guarantee. -/
def Rely (G : Nat → Sys → Sys → Prop) (t : Nat) : Sys → Sys → Prop :=
  ReflTransGen fun s s' => ∃ u, u ≠ t ∧ G u s s'

theorem Rely.trans {G : Nat → Sys → Sys → Prop} {t : Nat} {a b c : Sys} (h : Rely G t a b)
    (h' : Rely G t b c) : Rely G t a c := ReflTransGen.trans h h'

section Stable
variable {u t : Nat} {s s' : Sys} {d p x : Dentry}

/-- The others neither take nor release what thread `t` holds. -/
theorem Guar.owner_iff (h : Guar u s s') (hu : u ≠ t) (x : Dentry) :
    s'.owner x = some t ↔ s.owner x = some t := by
  rcases h.owner x with e | ⟨e1, e2⟩ | ⟨e1, e2⟩
  · rw [e]
  · simp [e1, e2, hu]
  · simp [e1, e2, hu]

/-- The others do not hand the rename mutex to thread `t`. -/
theorem Guar.renamer_of (h : Guar u s s') (hu : u ≠ t) (h' : s'.renamer = some t) :
    s.renamer = some t :=
  (h.renamer t h').resolve_right fun e => hu e.symm

/-- The others leave a positive child of a directory that `t` holds where it is, positive. -/
theorem Guar.pinned (h : Guar u s s') (hu : u ≠ t) (hp : s.owner p = some t)
    (hd : s.cache.positive d = true) (hpar : s.cache.parent d = p) :
    s'.cache.positive d = true ∧ s'.cache.parent d = p := by
  have hne : s.owner (s.cache.parent d) ≠ some u := by rw [hpar, hp]; simpa using hu.symm
  refine ⟨?_, ?_⟩
  · cases hd' : s'.cache.positive d
    · exact absurd (h.negative d hd hd') hne
    · rfl
  · rcases h.parent d with e | e | e
    · rw [e, hpar]
    · rw [hd] at e; cases e
    · exact absurd e hne

/-- Thread `t` holds exactly the mutexes of `S`. -/
def Held (s : Sys) (t : Nat) (S : Set Dentry) : Prop := ∀ x, s.owner x = some t ↔ x ∈ S

/-- After `mutex_lock` from holding nothing, the thread holds that mutex. -/
theorem Held.lock (h : s.Held t ∅) : (s.lock t d).Held t {d} := fun x => by
  by_cases hx : x = d
  · simp [Sys.lock, hx]
  · simpa [Sys.lock, hx] using h x

/-- After `mutex_unlock` of the one mutex it held, the thread holds nothing. -/
theorem Held.unlock (h : s.Held t {d}) : (s.unlock d).Held t ∅ := fun x => by
  by_cases hx : x = d
  · simp [Sys.unlock, hx]
  · simpa [Sys.unlock, hx] using h x

/-- After `lock_rename` from holding nothing, the thread holds both parents. -/
theorem Held.lockRename {p1 p2 : Dentry} {rn : Option Nat} (h : s.Held t ∅) :
    Held { (s.lock t p1).lock t p2 with renamer := rn } t {p1, p2} := fun x => by
  by_cases h2 : x = p2
  · simp [Sys.lock, h2]
  by_cases h1 : x = p1
  · subst h1; simp [Sys.lock, h2]
  · simpa [Sys.lock, h1, h2] using h x

/-- After `unlock_rename` of the two parents it held, the thread holds nothing. -/
theorem Held.unlockRename {p1 p2 : Dentry} {rn : Option Nat} (h : s.Held t {p1, p2}) :
    Held { (s.unlock p1).unlock p2 with renamer := rn } t ∅ := fun x => by
  by_cases h2 : x = p2
  · simp [Sys.unlock, h2]
  by_cases h1 : x = p1
  · subst h1; simp [Sys.unlock, h2]
  · simpa [Sys.unlock, h1, h2] using h x

/-- Thread `t` holds exactly the directory mutexes of `S`, and the rename mutex only if `rm`. -/
def Owns (s : Sys) (t : Nat) (S : Set Dentry) (rm : Prop) : Prop :=
  s.Held t S ∧ (s.renamer = some t → rm)

/-- Thread `t` makes a call that can wait only when it holds no directory mutex, and the rename
mutex only if `rm`. -/
def WaitFree (t : Nat) (rm : Prop) (s : Sys) (o : Op) : Prop := o.waits = true → s.Owns t ∅ rm

section Owns
variable {rm : Prop}

theorem Owns.lock (h : s.Owns t ∅ rm) : (s.lock t d).Owns t {d} rm := ⟨h.1.lock, h.2⟩

theorem Owns.unlock (h : s.Owns t {d} rm) : (s.unlock d).Owns t ∅ rm := ⟨h.1.unlock, h.2⟩

/-- `lock_rename` of two distinct directories also takes the rename mutex. -/
theorem Owns.lockRename (p1 p2 : Dentry) (h : s.Owns t ∅ rm) :
    Owns { (s.lock t p1).lock t p2 with renamer := if p1 = p2 then s.renamer else some t } t
      {p1, p2} (p1 ≠ p2 ∨ rm) :=
  ⟨Held.lockRename h.1, fun hr => by
    dsimp only at hr; split_ifs at hr with he; exacts [.inr (h.2 hr), .inl he]⟩

/-- `unlock_rename` gives back the rename mutex that `lock_rename` took. -/
theorem Owns.unlockRename {p1 p2 : Dentry} (h : s.Owns t {p1, p2} (p1 ≠ p2 ∨ rm)) :
    Owns { (s.unlock p1).unlock p2 with renamer := if p1 = p2 then s.renamer else none } t ∅
      rm :=
  ⟨Held.unlockRename h.1, fun hr => by
    dsimp only at hr; split_ifs at hr with he; exact (h.2 hr).resolve_left (not_not.2 he)⟩

end Owns

variable {G : Nat → Sys → Sys → Prop} (hG : ∀ u s s', G u s s' → Guar u s s')
include hG

theorem Rely.renamer (hr : Rely G t s s') (h : s'.renamer = some t) : s.renamer = some t := by
  induction hr with
  | refl => exact h
  | tail _ hbc ih =>
    obtain ⟨u, hu, hg⟩ := hbc
    exact ih ((hG _ _ _ hg).renamer_of hu h)

theorem Rely.owner_iff (hr : Rely G t s s') (x : Dentry) :
    s'.owner x = some t ↔ s.owner x = some t := by
  induction hr with
  | refl => rfl
  | tail _ hbc ih =>
    obtain ⟨u, hu, hg⟩ := hbc
    exact ((hG _ _ _ hg).owner_iff hu x).trans ih

theorem Rely.positive (hr : Rely G t s s') (h : s'.cache.positive d = true) :
    s.cache.positive d = true := by
  induction hr with
  | refl => exact h
  | tail _ hbc ih =>
    obtain ⟨u, -, hg⟩ := hbc
    exact ih ((hG _ _ _ hg).positive d h)

theorem Rely.pinned (hr : Rely G t s s') (hp : s.owner p = some t)
    (hd : s.cache.positive d = true) (hpar : s.cache.parent d = p) :
    s'.cache.positive d = true ∧ s'.cache.parent d = p := by
  induction hr with
  | refl => exact ⟨hd, hpar⟩
  | tail hab hbc ih =>
    obtain ⟨u, hu, hg⟩ := hbc
    exact (hG _ _ _ hg).pinned hu ((Rely.owner_iff hG hab p).2 hp) ih.1 ih.2

/-- A dentry that, when positive, hangs under a directory `t` holds, still does. -/
theorem Rely.pinIf (hr : Rely G t s s') (hp : s.owner p = some t)
    (hd : s.cache.positive d = true → s.cache.parent d = p)
    (hd' : s'.cache.positive d = true) : s'.cache.parent d = p :=
  (hr.pinned hG hp (hr.positive hG hd') (hd (hr.positive hG hd'))).2

theorem Rely.held {S : Set Dentry} (hr : Rely G t s s') (h : s.Held t S) : s'.Held t S :=
  fun x => (hr.owner_iff hG x).trans (h x)

theorem Rely.owns {S : Set Dentry} {rm : Prop} (hr : Rely G t s s') (h : s.Owns t S rm) :
    s'.Owns t S rm :=
  ⟨hr.held hG h.1, fun h' => h.2 (hr.renamer hG h')⟩

end Stable

/-- With no mutex held, a thread holds nothing. -/
theorem held_of_free {s : Sys} (hs : ∀ x, s.owner x = none) (t : Nat) : s.Held t ∅ :=
  fun x => by simp [hs x]

theorem owns_of_free {s : Sys} {t : Nat} {rm : Prop} (hs : ∀ x, s.owner x = none)
    (hr : s.renamer = some t → rm) : s.Owns t ∅ rm :=
  ⟨held_of_free hs t, hr⟩

/-- A removal's step: within the guarantee, and moving no dentry. -/
def GuarFixed (u : Nat) (s s' : Sys) : Prop := Guar u s s' ∧ s'.cache.parent = s.cache.parent

/-- Under a rely whose steps move no dentry, the parent map stays as it is. -/
theorem Rely.parent_eq {G : Nat → Sys → Sys → Prop} {t : Nat} {s s' : Sys}
    (hG : ∀ u s s', G u s s' → s'.cache.parent = s.cache.parent) (hr : Rely G t s s') :
    s'.cache.parent = s.cache.parent := by
  induction hr with
  | refl => rfl
  | tail _ hbc ih =>
    obtain ⟨u, -, hg⟩ := hbc
    exact (hG _ _ _ hg).trans ih

variable (G : Nat → Sys → Sys → Prop) (P : Nat → Sys → Op → Prop) (Q : Nat → Int → Sys → Prop)

/-- Every thread of `c` is correct among the others. -/
def Sound (c : Config) : Prop := ∀ t, (c.2 t).RG (kernel t) (Rely G t) (G t) (P t) c.1 (Q t)

variable {G P Q}

/-- The parallel rule: a step of any thread keeps every thread correct, as the step is within
its guarantee and so within the rely of each other thread. -/
theorem Sound.step (hQ : ∀ t a s s', Rely G t s s' → Q t a s → Q t a s') {c c' : Config}
    (h : Sound G P Q c) (hs : Step c c') : Sound G P Q c' := by
  obtain @⟨s, s', ps, u, o, k, r, hp, hk⟩ := hs
  have hu : (ps u).RG _ _ _ _ s _ := h u
  rw [hp] at hu
  obtain ⟨hg, hrg⟩ := (hu s .refl).2 r s' hk
  intro t
  by_cases htu : t = u
  · subst htu
    simpa using hrg
  · simpa [Function.update_noteq htu] using
      (h t).rely (fun _ _ _ => ReflTransGen.trans) (hQ t) (.single ⟨u, Ne.symm htu, hg⟩)

theorem Sound.reach (hQ : ∀ t a s s', Rely G t s s' → Q t a s → Q t a s') {c c' : Config}
    (h : Sound G P Q c) (hr : ReflTransGen Step c c') : Sound G P Q c' := by
  induction hr with
  | refl => exact h
  | tail _ hs ih => exact ih.step hQ hs

/-- In a sound configuration, each thread's next call meets its `P`. -/
theorem Sound.call {c : Config} (h : Sound G P Q c) {t : Nat} {o : Op} {k : o.Res → Prog Int}
    (ht : c.2 t = .call o k) : P t c.1 o := by
  have := h t
  rw [ht] at this
  exact (this c.1 .refl).1

/-- In a sound configuration, each finished thread meets its `Q`. -/
theorem Sound.ret {c : Config} (h : Sound G P Q c) {t : Nat} {a : Int} (ht : c.2 t = .ret a) :
    Q t a c.1 := by
  have := h t
  rwa [ht] at this

/-! ## Progress

`lock_rename` is one step here, which takes both parents and the rename mutex at once, so no
cycle of waits can form inside it.  A cycle needs a thread that waits while it holds a mutex, or
a thread that returns holding one.  Threads whose every waiting call is made holding nothing,
and that end holding nothing, never deadlock: whoever holds what a waiting thread needs is at a
call that does not wait, and can make it. -/

/-- A thread at a call that does not wait can always make it. -/
theorem Step.of_ready {c : Config} {u : Nat} {o : Op} {k : o.Res → Prog Int}
    (hp : c.2 u = .call o k) (hw : o.waits = false) : ∃ c', Step c c' :=
  let ⟨_, _, hk⟩ := exists_kernel (s := c.1) (t := u) hw
  ⟨_, .call hp hk⟩

section Progress
variable (hP : ∀ t s o, P t s o → s.WaitFree t False o) (hQ : ∀ t a s, Q t a s → s.Owns t ∅ False)
include hP hQ

/-- A thread that holds a directory mutex or the rename mutex is neither waiting nor finished. -/
theorem Sound.holder {c : Config} (h : Sound G P Q c) {u : Nat}
    (hu : (∃ x, c.1.owner x = some u) ∨ c.1.renamer = some u) :
    ∃ o k, c.2 u = .call o k ∧ o.waits = false := by
  have busy : ¬ c.1.Owns u ∅ False := fun ⟨hh, hr⟩ =>
    hu.elim (fun ⟨x, hx⟩ => Set.not_mem_empty x ((hh x).1 hx)) hr
  cases hp : c.2 u with
  | ret a => exact absurd (hQ _ _ _ (h.ret hp)) busy
  | call o k =>
    cases hw : o.waits
    · exact ⟨o, k, rfl, hw⟩
    · exact absurd (hP _ _ _ (h.call hp) hw) busy

/-- No deadlock: while a thread has a call to make, some thread can step. -/
theorem Sound.progress {c : Config} (h : Sound G P Q c) {t : Nat} {o : Op}
    {k : o.Res → Prog Int} (ht : c.2 t = .call o k) : ∃ c', Step c c' := by
  have unblocked (u : Nat) (hu : (∃ x, c.1.owner x = some u) ∨ c.1.renamer = some u) :
      ∃ c', Step c c' :=
    let ⟨_, _, hp, hw⟩ := h.holder hP hQ hu
    Step.of_ready hp hw
  cases hw : o.waits
  · exact Step.of_ready ht hw
  rcases Op.waits_cases hw with ⟨d, rfl⟩ | ⟨p1, p2, rfl⟩
  · -- `mutex_lock` waits for the holder of the mutex
    rcases hd : c.1.owner d with _ | u
    · exact ⟨_, .call (r := ()) ht ⟨hd, rfl⟩⟩
    · exact unblocked u (.inl ⟨d, hd⟩)
  · -- `lock_rename` waits for the holders of the parents, or of the rename mutex
    rcases h1 : c.1.owner p1 with _ | u
    · rcases h2 : c.1.owner p2 with _ | u
      · by_cases hr : p1 = p2 ∨ c.1.renamer = none
        · obtain ⟨r, htr⟩ := c.1.cache.trap_exists p1 p2
          exact ⟨_, .call ht ⟨h1, h2, hr, htr, rfl⟩⟩
        · obtain ⟨u, hu⟩ := Option.ne_none_iff_exists'.1 (not_or.1 hr).2
          exact unblocked u (.inr hu)
      · exact unblocked u (.inl ⟨p2, h2⟩)
    · exact unblocked u (.inl ⟨p1, h1⟩)

end Progress

end Sys

end CifsdVfs

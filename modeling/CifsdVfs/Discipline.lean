import CifsdVfs.Interleave

/-!
# The parent-directory discipline under interleaving

Each thread is read on its own through `Prog.RG`, the steps of the other threads being its
rely, and the server is put together by the parallel rule `Sys.Sound.reach`.

Renames alone keep the lock half of the discipline (`renames_keep_discipline`).  `lock_rename`
takes both parents before anything is looked up, so a rename passes `vfs_rename` and
`unlock_rename` only directories it holds, whatever the other renames do within `Sys.Guar`.  A
rename by path looks its source and target up under those locks, and no thread moves a positive
child of a directory another holds, so the parents it passes are still current.  Removals alone
keep the whole discipline (`removals_keep_discipline`): none of their steps moves a dentry, so
every `d_parent` they read stays current.  In both, a finished thread holds no mutex.

Mixed, the discipline breaks.  `smb_vfs_unlink` and `smb_vfs_rmdir` take the `i_mutex` of
`path.dentry->d_parent`, reading `d_parent` before the lock is held, and read it again for the
call and for the unlock.  `smb_vfs_rename` by handle reads `filp->f_path.dentry->d_parent` before
`lock_rename`.  A rename by another thread between the read and the lock moves the dentry:

* `unlink_race`: the unlinking thread locks `/a`, the old parent, passes `/b`, which it does not
  hold, to `vfs_unlink`, then unlocks `/b`; both threads return, and `/a` stays locked by a
  thread that has finished.
* `rmdir_race`: the same for `vfs_rmdir`.
* `renameByFid_race`: the rename by handle locks the old parent and the target's, and passes
  the old parent to `vfs_rename` as the parent of a source that no longer hangs there.

Each race is one run of the server, written out step by step: thread 0 runs the helper under
test and thread 1 renames `/a/f` to `/b/f`.
-/

namespace CifsdVfs
open Relation

/-! ## What each helper guarantees

Each piece of `smb_vfs_rename` has its own lemma, from the innermost label outwards, under any
rely within `Sys.Guar`.  The state facts a piece starts from are ones the others cannot break:
which mutexes the thread holds (`Sys.Held`), and a positive dentry hanging under a directory it
holds.  The removals are read under a rely that moves no dentry. -/

/-- What a rename promises at each call: the lock half of the discipline, and, by path, the
whole; and it waits only when it holds no directory mutex, and the rename mutex only if `rm`. -/
def renameOk (t : Nat) (byPath : Bool) (rm : Prop) (s : Sys) (o : Op) : Prop :=
  s.Holds t o ∧ (byPath = true → s.Disciplined t o) ∧ s.WaitFree t rm o

section Renames
open Prog Sys
variable {G : Nat → Sys → Sys → Prop} (hG : ∀ u s s', G u s s' → Guar u s s') {t : Nat}
  {rm : Prop} {doldP dold dnewP dnew : Dentry} {trap : Option Dentry}
include hG

/-- From the trap test of the target to label `out4`, holding both parents. -/
theorem smbVfsRenameTo_rg (byPath : Bool) {s : Sys}
    (hs : s.Owns t {doldP, dnewP} (doldP ≠ dnewP ∨ rm))
    (hold : byPath = true → s.cache.positive dold = true ∧ s.cache.parent dold = doldP)
    (hnew : s.cache.positive dnew = true → s.cache.parent dnew = dnewP) :
    (smbVfsRenameTo doldP dold dnewP dnew trap).RG (kernel t) (Rely G t) (Guar t)
      (renameOk t byPath rm) s fun _ s' => s'.Owns t {doldP, dnewP} (doldP ≠ dnewP ∨ rm) := by
  simp only [smbVfsRenameTo, invoke, bind_eq, pure_eq, call_bind, ret_bind, rg_bind, rg_call,
    rg_ite, rg_ret, forall_kernel_vfsRename, forall_kernel_untouched, renameOk, Holds, Disciplined,
    WaitFree, Op.waits, Bool.false_eq_true, false_implies, guar_self, true_and, and_true,
    imp_true_iff, forall_const]
  have held {s₀ : Sys} (h₀ : Rely G t s s₀) : s₀.owner doldP = some t ∧ s₀.owner dnewP = some t :=
    ⟨((h₀.owns hG hs).1 doldP).2 (by simp), ((h₀.owns hG hs).1 dnewP).2 (by simp)⟩
  refine ⟨fun _ s₀ h₀ => h₀.owns hG hs, fun _ s₀ h₀ => ⟨⟨held h₀, fun hb => ?_⟩,
    fun s₁ h₁ => (h₀.trans h₁).owns hG hs,
    fun _ _ hpo _ hpn _ => ⟨?_, fun s₁ h₁ => h₁.owns hG (h₀.owns hG hs)⟩⟩⟩
  · exact ⟨(h₀.pinned hG (hs.1 doldP |>.2 (by simp)) (hold hb).1 (hold hb).2).2, (held h₀).1,
      h₀.pinIf hG (hs.1 dnewP |>.2 (by simp)) hnew, (held h₀).2⟩
  · exact guar_dMove (hpo ▸ (held h₀).1) (hpn ▸ (held h₀).2)

/-- The lookup of the target hangs at most a fresh negative dentry, so the source stays put. -/
theorem smbVfsRenameTarget_rg (byPath : Bool) (newname : CStr) {s : Sys}
    (hs : s.Owns t {doldP, dnewP} (doldP ≠ dnewP ∨ rm))
    (hold : byPath = true → s.cache.positive dold = true ∧ s.cache.parent dold = doldP) :
    (smbVfsRenameTarget doldP dold dnewP newname trap).RG (kernel t) (Rely G t) (Guar t)
      (renameOk t byPath rm) s fun _ s' => s'.Owns t {doldP, dnewP} (doldP ≠ dnewP ∨ rm) := by
  simp only [smbVfsRenameTarget, invoke, bind_eq, call_bind, ret_bind, rg_call, rg_ret,
    pure_eq, forall_kernel_lookupOneLen, renameOk, Holds, Disciplined, WaitFree, Op.waits,
    Bool.false_eq_true, false_implies, guar_self, true_and, and_true, imp_true_iff]
  intro s₀ h₀
  have hs₀ := h₀.owns hG hs
  refine ⟨fun _ => hs₀, fun d c' ha => ⟨guar_alloc ha,
    smbVfsRenameTo_rg hG byPath hs₀ (fun hb => ?_) fun _ => ha.parent_eq⟩⟩
  have hp := h₀.pinned hG (hs.1 doldP |>.2 (by simp)) (hold hb).1 (hold hb).2
  exact ⟨ha.keeps.1 ▸ hp.1, (ha.keeps.2 dold hp.1).trans hp.2⟩

/-- A source found positive under the locks still hangs where the lookup found it. -/
theorem smbVfsRenameSource_rg (byPath : Bool) (newname : CStr) {s : Sys}
    (hs : s.Owns t {doldP, dnewP} (doldP ≠ dnewP ∨ rm))
    (hold : byPath = true → s.cache.positive dold = true → s.cache.parent dold = doldP) :
    (smbVfsRenameSource doldP dold dnewP newname trap).RG (kernel t) (Rely G t) (Guar t)
      (renameOk t byPath rm) s fun _ s' => s'.Owns t {doldP, dnewP} (doldP ≠ dnewP ∨ rm) := by
  simp only [smbVfsRenameSource, invoke, bind_eq, pure_eq, call_bind, ret_bind, rg_bind, rg_call,
    rg_ite, rg_ret, forall_kernel_dNegative, forall_kernel_untouched, renameOk, Holds, Disciplined,
    WaitFree, Op.waits, Bool.false_eq_true, false_implies, guar_self, true_and, and_true,
    imp_true_iff, forall_const, Bool.not_eq_true', Bool.not_eq_false]
  intro s₀ h₀
  have hs₀ := h₀.owns hG hs
  refine ⟨fun _ s₁ h₁ => h₁.owns hG hs₀, fun hpos => ⟨fun _ s₁ h₁ => h₁.owns hG hs₀, fun _ =>
    (smbVfsRenameTarget_rg hG byPath newname hs₀ fun hb =>
      ⟨hpos, h₀.pinIf hG (hs.1 doldP |>.2 (by simp)) (hold hb) hpos⟩).mono
      fun _ _ h s₁ h₁ => h₁.owns hG h⟩⟩

/-- `unlock_rename` of the two parents the thread holds, as the last call. -/
theorem unlockRename_rg (byPath : Bool) {p1 p2 : Dentry} {s : Sys}
    (hs : s.Owns t {p1, p2} (p1 ≠ p2 ∨ rm)) (a : Int) :
    (Prog.call (.unlockRename p1 p2) fun _ => .ret a).RG (kernel t) (Rely G t) (Guar t)
      (renameOk t byPath rm) s fun _ s' => s'.Owns t ∅ rm := by
  simp only [rg_call, rg_ret, forall_kernel_unlockRename, renameOk, Holds, Disciplined,
    WaitFree, Op.waits, Bool.false_eq_true, false_implies, and_true, and_self]
  intro s₀ h₀
  have hs₀ := h₀.owns hG hs
  have h := And.intro ((hs₀.1 p1).2 (by simp)) ((hs₀.1 p2).2 (by simp))
  exact ⟨⟨h, fun _ => h⟩, guar_unlockRename h.1 h.2, Owns.unlockRename hs₀⟩

/-- From `lock_rename` to label `out2`: the thread takes both parents, and gives them back. -/
theorem smbVfsRenameLocked_rg (byPath : Bool) (src : RenameSource) (newname : CStr) {s : Sys}
    (hs : s.Owns t ∅ rm) (hsrc : byPath = true → ∃ oldname, src = .name oldname) :
    (smbVfsRenameLocked doldP dnewP src newname).RG (kernel t) (Rely G t) (Guar t)
      (renameOk t byPath rm) s fun _ s' => s'.Owns t ∅ rm := by
  simp only [smbVfsRenameLocked, invoke, bind_eq, pure_eq, call_bind, ret_bind, rg_call,
    forall_kernel_lockRename, renameOk, Holds, Disciplined, WaitFree, Op.waits, true_and,
    true_implies, imp_true_iff]
  intro s₀ h₀
  refine ⟨h₀.owns hG hs, fun trap h1 h2 _ _ => ⟨guar_lockRename h1 h2, ?_⟩⟩
  have hl := Owns.lockRename doldP dnewP (h₀.owns hG hs)
  -- the lookup or `dget` of the source, then `smbVfsRenameSource`, then `unlock_rename`
  cases src with
  | name oldname =>
    intro s₁ h₁
    have hs₁ := h₁.owns hG hl
    exact ⟨⟨trivial, fun _ => trivial, nofun⟩, forall_kernel_lookupOneLen.2
      ⟨fun e => ⟨guar_self t s₁, unlockRename_rg hG byPath hs₁ e⟩, fun dold c' ha => ⟨guar_alloc ha,
        (smbVfsRenameSource_rg hG byPath newname (s := { s₁ with cache := c' }) hs₁
          fun _ _ => ha.parent_eq).seq fun a _ h => unlockRename_rg hG byPath h a⟩⟩⟩
  | fid dold =>
    intro s₁ h₁
    exact ⟨⟨trivial, fun _ => trivial, nofun⟩, (forall_kernel_untouched rfl rfl).2 fun _ =>
      ⟨guar_self t s₁, (smbVfsRenameSource_rg hG byPath newname (h₁.owns hG hl) fun hb =>
        absurd (hsrc hb) (by simp)).seq fun a _ h => unlockRename_rg hG byPath h a⟩⟩

/-- `smb_vfs_rename` among other threads: the whole discipline by path, its lock half by
handle; it waits only holding nothing, and holds nothing at the end. -/
theorem smbVfsRename_rg (absOldname : Option CStr) (absNewname : CStr) (oldfid : Nat) {s : Sys}
    (hs : s.Owns t ∅ rm) :
    (smbVfsRename absOldname absNewname oldfid).RG (kernel t) (Rely G t) (Guar t)
      (renameOk t absOldname.isSome rm) s fun _ s' => s'.Owns t ∅ rm := by
  unfold smbVfsRename
  rcases absOldname with _ | absOldname <;> dsimp only
  · -- by handle: the source's parent is read before `lock_rename`
    cases lastComponent absNewname <;>
    simp only [invoke, bind_eq, pure_eq, call_bind, ret_bind, rg_bind, rg_call, rg_ret,
      forall_kernel_dParent, forall_kernel_untouched, forall_res_getIdFromFidtable,
      forall_res_kernPath, renameOk, Holds, Disciplined, WaitFree, Op.waits, Bool.false_eq_true,
      false_implies, guar_self, true_and, and_true, imp_true_iff, forall_const]
    · exact fun s₀ h₀ => ⟨h₀.owns hG hs, fun s₁ h₁ => (h₀.trans h₁).owns hG hs⟩
    · intro s₀ h₀
      refine ⟨h₀.owns hG hs, fun fp s₁ h₁ s₂ h₂ => ?_⟩
      have hs₂ := ((h₀.trans h₁).trans h₂).owns hG hs
      exact ⟨hs₂, fun _ => (smbVfsRenameLocked_rg hG _ _ _ hs₂ (by simp)).mono
        fun _ _ h s₃ h₃ => h₃.owns hG h⟩
  · -- by path: both names are resolved first
    cases lastComponent absOldname
    · exact hs
    cases lastComponent absNewname <;>
    simp only [invoke, bind_eq, pure_eq, call_bind, ret_bind, rg_bind, rg_call, rg_ret,
      forall_kernel_untouched, forall_res_kernPath, renameOk, Holds, Disciplined, WaitFree,
      Op.waits, Bool.false_eq_true, false_implies, guar_self, true_and, and_true, imp_true_iff,
      forall_const]
    · exact fun s₀ h₀ => ⟨h₀.owns hG hs, fun s₁ h₁ => (h₀.trans h₁).owns hG hs⟩
    · intro s₀ h₀
      refine ⟨h₀.owns hG hs, fun _ s₁ h₁ => ⟨fun s₂ h₂ => ((h₀.trans h₁).trans h₂).owns hG hs,
        fun _ => ?_⟩⟩
      exact (smbVfsRenameLocked_rg hG _ _ _ ((h₀.trans h₁).owns hG hs) fun _ => ⟨_, rfl⟩).mono
        fun _ _ h s₂ h₂ s₃ h₃ => h₃.owns hG (h₂.owns hG h)

end Renames

/-- What a removal promises at each call: the whole discipline; and it waits only when it holds
no directory mutex, and the rename mutex only if `rm`. -/
def removalOk (t : Nat) (rm : Prop) (s : Sys) (o : Op) : Prop :=
  s.Disciplined t o ∧ s.WaitFree t rm o

section Removal
open Prog Sys
variable {G : Nat → Sys → Sys → Prop} (hG : ∀ u s s', G u s s' → Guar u s s')
  (hG' : ∀ u s s', G u s s' → s'.cache.parent = s.cache.parent) {t : Nat} {rm : Prop}
include hG hG'

/-- `smb_vfs_unlink` among threads that move no dentry keeps the whole discipline. -/
theorem smbVfsUnlink_rg (name : CStr) {s : Sys} (hs : s.Owns t ∅ rm) :
    (smbVfsUnlink name).RG (kernel t) (Rely G t) (GuarFixed t) (removalOk t rm) s
      fun _ s' => s'.Owns t ∅ rm := by
  simp only [smbVfsUnlink, invoke, bind_eq, pure_eq, call_bind, ret_bind, rg_bind, rg_call, rg_ite,
    rg_ret, forall_kernel_dParent, forall_kernel_mutexLock, forall_kernel_mutexUnlock,
    forall_kernel_vfsUnlink, forall_kernel_untouched, forall_res_kernPath, removalOk, Disciplined,
    WaitFree, Op.waits, Bool.false_eq_true, false_implies, true_implies, GuarFixed, guar_self,
    true_and, and_true, imp_true_iff, forall_const]
  intro s₀ h₀
  refine ⟨h₀.owns hG hs, fun p s₁ h₁ s₂ h₂ s₃ h₃ => ?_⟩
  have hs₃ := (((h₀.trans h₁).trans h₂).trans h₃).owns hG hs
  refine ⟨hs₃, fun hfree => ?_⟩
  -- no dentry moves, so every later read of `d_parent` finds `dir`, the parent read at `s₂`
  set dir := s₂.cache.parent p.dentry
  have hl := Owns.lock (d := dir) hs₃
  have tail : ∀ a : Sys, a.Owns t {dir} rm → a.cache.parent = s₂.cache.parent →
      ∀ s₇, Rely G t a s₇ → ∀ s₈, Rely G t s₇ s₈ →
        s₈.owner (s₇.cache.parent p.dentry) = some t ∧
          (Guar t s₈ (s₈.unlock (s₇.cache.parent p.dentry)) ∧
            (s₈.unlock (s₇.cache.parent p.dentry)).cache.parent = s₈.cache.parent) ∧
          ∀ s₉, Rely G t (s₈.unlock (s₇.cache.parent p.dentry)) s₉ →
            ∀ s₁₀, Rely G t s₉ s₁₀ → s₁₀.Owns t ∅ rm := by
    intro a ha hpa s₇ h₇ s₈ h₈
    rw [(h₇.parent_eq hG').trans hpa]
    have ho := (((h₇.trans h₈).owns hG ha).1 dir).2 rfl
    exact ⟨ho, ⟨guar_unlock ho, rfl⟩, fun s₉ h₉ s₁₀ h₁₀ =>
      (h₉.trans h₁₀).owns hG (Owns.unlock ((h₇.trans h₈).owns hG ha))⟩
  have e₃ : s₃.cache.parent = s₂.cache.parent := h₃.parent_eq hG'
  refine ⟨⟨guar_lock hfree, rfl⟩, fun s₄ h₄ _ => ⟨fun _ => ?_, fun _ s₅ h₅ s₆ h₆ => ?_⟩⟩
  · exact tail _ (h₄.owns hG hl) ((h₄.parent_eq hG').trans e₃)
  have e₅ : s₅.cache.parent = s₂.cache.parent := ((h₄.trans h₅).parent_eq hG').trans e₃
  have e₆ : s₆.cache.parent = s₂.cache.parent := (h₆.parent_eq hG').trans e₅
  have hl₆ := ((h₄.trans h₅).trans h₆).owns hG hl
  have ho : s₆.owner dir = some t := (hl₆.1 dir).2 rfl
  exact ⟨⟨by rw [e₆, e₅], by rw [e₅]; exact ho⟩, tail _ hl₆ e₆,
    ⟨guar_setNegative (by rw [e₆]; exact ho), rfl⟩, tail _ hl₆ e₆⟩

/-- `smb_vfs_rmdir` among threads that move no dentry keeps the whole discipline. -/
theorem smbVfsRmdir_rg (name : CStr) {s : Sys} (hs : s.Owns t ∅ rm) :
    (smbVfsRmdir name).RG (kernel t) (Rely G t) (GuarFixed t) (removalOk t rm) s
      fun _ s' => s'.Owns t ∅ rm := by
  simp only [smbVfsRmdir, invoke, bind_eq, pure_eq, call_bind, ret_bind, rg_bind, rg_call, rg_ite,
    rg_ret, forall_kernel_dParent, forall_kernel_mutexLock, forall_kernel_mutexUnlock,
    forall_kernel_vfsRmdir, forall_kernel_untouched, forall_res_kernPath, removalOk, Disciplined,
    WaitFree, Op.waits, Bool.false_eq_true, false_implies, true_implies, GuarFixed, guar_self,
    true_and, and_true, imp_true_iff, forall_const]
  intro s₀ h₀
  refine ⟨h₀.owns hG hs, fun p s₁ h₁ s₂ h₂ => ?_⟩
  have hs₂ := ((h₀.trans h₁).trans h₂).owns hG hs
  refine ⟨hs₂, fun hfree => ?_⟩
  -- no dentry moves, so every later read of `d_parent` finds `dir`, the parent read at `s₁`
  set dir := s₁.cache.parent p.dentry
  have hl := Owns.lock (d := dir) hs₂
  have tail : ∀ a : Sys, a.Owns t {dir} rm → a.cache.parent = s₁.cache.parent →
      ∀ s₅, Rely G t a s₅ → ∀ s₆, Rely G t s₅ s₆ →
        s₆.owner (s₅.cache.parent p.dentry) = some t ∧
          (Guar t s₆ (s₆.unlock (s₅.cache.parent p.dentry)) ∧
            (s₆.unlock (s₅.cache.parent p.dentry)).cache.parent = s₆.cache.parent) ∧
          ∀ s₇, Rely G t (s₆.unlock (s₅.cache.parent p.dentry)) s₇ → s₇.Owns t ∅ rm := by
    intro a ha hpa s₅ h₅ s₆ h₆
    rw [(h₅.parent_eq hG').trans hpa]
    have ho := (((h₅.trans h₆).owns hG ha).1 dir).2 rfl
    exact ⟨ho, ⟨guar_unlock ho, rfl⟩, fun s₇ h₇ =>
      h₇.owns hG (Owns.unlock ((h₅.trans h₆).owns hG ha))⟩
  have e₂ : s₂.cache.parent = s₁.cache.parent := h₂.parent_eq hG'
  refine ⟨⟨guar_lock hfree, rfl⟩, fun s₃ h₃ s₄ h₄ => ?_⟩
  have e₃ : s₃.cache.parent = s₁.cache.parent := (h₃.parent_eq hG').trans e₂
  have e₄ : s₄.cache.parent = s₁.cache.parent := (h₄.parent_eq hG').trans e₃
  have hl₄ := (h₃.trans h₄).owns hG hl
  have ho : s₄.owner dir = some t := (hl₄.1 dir).2 rfl
  exact ⟨⟨by rw [e₄, e₃], by rw [e₃]; exact ho⟩, tail _ hl₄ e₄,
    ⟨guar_setNegative (by rw [e₄]; exact ho), rfl⟩, tail _ hl₄ e₄⟩

end Removal

/-! ## A scene for the witnesses and the races -/

/-- The root 0 with the directories `/a` (1) and `/b` (2) and the file `/a/f` (3); every other
dentry hangs negative under the root. -/
def raceTree : Dcache :=
  { parent := fun d => if d = 3 then 1 else 0, positive := fun d => decide (d ≤ 3), root := 0 }

/-- `raceTree`, with no mutex held. -/
def raceSys : Sys := { cache := raceTree, owner := fun _ => none, renamer := none }

/-- After the rename of `/a/f` to `/b/f`: the file hangs under `/b`, and the dentry 4 that the
lookup of `f` in `/b` allocated hangs negative under `/a`. -/
def movedSys : Sys :=
  { cache := (raceTree.attach 4 2).dMove 3 4, owner := fun _ => none, renamer := none }

/-- Thread 0 runs `p`; thread 1 renames `/a/f` to `/b/f`. -/
def raceThreads (p : Prog Int) : Nat → Prog Int
  | 0 => p
  | 1 => smbVfsRename (some ['/', 'a', '/', 'f']) ['/', 'b', '/', 'f'] 0
  | _ => .ret 0

/-! ## Renames alone, removals alone -/

section Worlds
open Sys

/-- The helpers of `vfs.c` that take a parent-directory lock. -/
inductive Locker where
  | unlink (name : CStr)
  | rmdir (name : CStr)
  | rename (absOldname : Option CStr) (absNewname : CStr) (oldfid : Nat)

/-- The helper a `Locker` runs. -/
def Locker.run : Locker → Prog Int
  | .unlink name => smbVfsUnlink name
  | .rmdir name => smbVfsRmdir name
  | .rename absOldname absNewname oldfid => smbVfsRename absOldname absNewname oldfid

/-- A rename, by path (`some` source name) or by handle. -/
def Locker.isRename : Locker → Bool
  | .rename .. => true
  | _ => false

/-- Thread `t` of the server runs the helper `ls t`, or nothing. -/
def Locker.threads (ls : Nat → Option Locker) (t : Nat) : Prog Int :=
  match ls t with
  | some l => l.run
  | none => .ret 0

/-- What thread `t` keeps in the configuration `c`: its next call holds the directories it
passes and the mutexes it releases, and meets the whole discipline when `whole`; once finished,
it holds no mutex. -/
def Sys.ThreadOk (c : Sys.Config) (t : Nat) (whole : Prop) : Prop :=
  (∀ o (k : o.Res → Prog Int), c.2 t = .call o k → c.1.Holds t o ∧ (whole → c.1.Disciplined t o)) ∧
    ∀ a, c.2 t = .ret a → c.1.Held t ∅

/-- Whether thread `t`'s helper is a rename by path. -/
def Locker.byPath : Option Locker → Bool
  | some (.rename a _ _) => a.isSome
  | _ => false

/-- Renames alone, from a state where no directory mutex is held and the rename mutex, if held,
belongs to a thread `t` with `rm t`: every thread is correct among the others. -/
theorem renames_sound (ls : Nat → Option Locker) (hls : ∀ t l, ls t = some l → l.isRename = true)
    {s : Sys} (hs : ∀ x, s.owner x = none) (rm : Nat → Prop)
    (hrm : ∀ t, s.renamer = some t → rm t) :
    Sound (fun u => Guar u) (fun t => renameOk t (Locker.byPath (ls t)) (rm t))
      (fun t _ s => s.Owns t ∅ (rm t)) (s, Locker.threads ls) := by
  intro t
  simp only [Locker.threads]
  rcases h : ls t with _ | l
  · exact Sys.owns_of_free hs (hrm t)
  · cases l with
    | rename a b f => exact smbVfsRename_rg (fun _ _ _ h => h) a b f (Sys.owns_of_free hs (hrm t))
    | _ => exact absurd (hls t _ h) (by simp [Locker.isRename])

/-- Removals alone, from the same kind of state. -/
theorem removals_sound (ls : Nat → Option Locker)
    (hls : ∀ t l, ls t = some l → l.isRename = false) {s : Sys} (hs : ∀ x, s.owner x = none)
    (rm : Nat → Prop) (hrm : ∀ t, s.renamer = some t → rm t) :
    Sound GuarFixed (fun t => removalOk t (rm t)) (fun t _ s => s.Owns t ∅ (rm t))
      (s, Locker.threads ls) := by
  have hG : ∀ u s s', GuarFixed u s s' → Guar u s s' := fun _ _ _ h => h.1
  have hG' : ∀ u s s', GuarFixed u s s' → s'.cache.parent = s.cache.parent := fun _ _ _ h => h.2
  intro t
  simp only [Locker.threads]
  rcases h : ls t with _ | l
  · exact Sys.owns_of_free hs (hrm t)
  · cases l with
    | unlink name => exact smbVfsUnlink_rg hG hG' name (Sys.owns_of_free hs (hrm t))
    | rmdir name => exact smbVfsRmdir_rg hG hG' name (Sys.owns_of_free hs (hrm t))
    | rename => exact absurd (hls t _ h) (by simp [Locker.isRename])

/-- Renames alone keep the locks: in every interleaving of renames from a state where no mutex is
held, every thread passes `vfs_rename` parents it holds and releases only mutexes it holds; a
rename by path also passes the source's current parent, and the target's when the target is
positive; a finished thread holds no mutex. -/
theorem renames_keep_discipline (ls : Nat → Option Locker)
    (hls : ∀ t l, ls t = some l → l.isRename = true) {s : Sys} (hs : ∀ x, s.owner x = none)
    {c : Sys.Config} (hc : ReflTransGen Sys.Step (s, Locker.threads ls) c) (t : Nat) :
    Sys.ThreadOk c t (∃ a b f, ls t = some (.rename (some a) b f)) := by
  have hsound := (renames_sound ls hls hs (fun _ => True) fun _ _ => trivial).reach
    (fun t _ _ _ hr h => hr.owns (fun _ _ _ h => h) h) hc
  refine ⟨fun o k hk => ?_, fun a ha => (hsound.ret ha).1⟩
  obtain ⟨h1, h2, -⟩ := hsound.call hk
  refine ⟨h1, fun ⟨a, b, f, h⟩ => h2 ?_⟩
  simp [Locker.byPath, h]

theorem renames_keep_discipline_raceSys :
    (∀ x, raceSys.owner x = none) ∧
    Sys.ThreadOk (raceSys, Locker.threads fun _ =>
        some (.rename (some ['/', 'a', '/', 'f']) ['/', 'b', '/', 'f'] 0)) 0
      (∃ a b f, some (Locker.rename (some ['/', 'a', '/', 'f']) ['/', 'b', '/', 'f'] 0) =
        some (.rename (some a) b f)) :=
  ⟨fun _ => rfl, renames_keep_discipline _ (fun _ _ h => by cases h; rfl) (fun _ => rfl) .refl 0⟩

/-- Removals alone keep the whole discipline: in every interleaving of `smb_vfs_unlink` and
`smb_vfs_rmdir` from a state where no mutex is held, every call to `vfs_unlink` or `vfs_rmdir`
passes the dentry's current parent, held by the caller, every thread releases only mutexes it
holds, and a finished thread holds no mutex. -/
theorem removals_keep_discipline (ls : Nat → Option Locker)
    (hls : ∀ t l, ls t = some l → l.isRename = false) {s : Sys} (hs : ∀ x, s.owner x = none)
    {c : Sys.Config} (hc : ReflTransGen Sys.Step (s, Locker.threads ls) c) (t : Nat) :
    Sys.ThreadOk c t True := by
  have hsound := (removals_sound ls hls hs (fun _ => True) fun _ _ => trivial).reach
    (fun t _ _ _ hr h => hr.owns (fun _ _ _ h => h.1) h) hc
  exact ⟨fun o k hk => ⟨(hsound.call hk).1.holds, fun _ => (hsound.call hk).1⟩,
    fun a ha => (hsound.ret ha).1⟩

theorem removals_keep_discipline_raceSys :
    (∀ x, raceSys.owner x = none) ∧
    Sys.ThreadOk (raceSys, Locker.threads fun _ => some (.unlink ['/', 'a', '/', 'f'])) 0 True :=
  ⟨fun _ => rfl, removals_keep_discipline _ (fun _ _ h => by cases h; rfl) (fun _ => rfl) .refl 0⟩

/-- Removals alone never deadlock: in every interleaving of `smb_vfs_unlink` and `smb_vfs_rmdir`
started with no mutex held, whenever a thread has a call left to make, some thread can make its
next call.  A removal waits only in `mutex_lock`, holding nothing, and returns holding nothing. -/
theorem removals_progress (ls : Nat → Option Locker)
    (hls : ∀ t l, ls t = some l → l.isRename = false) {s : Sys} (hs : ∀ x, s.owner x = none)
    (hr : s.renamer = none) {c : Sys.Config} (hc : ReflTransGen Sys.Step (s, Locker.threads ls) c)
    {t : Nat} {o : Op} {k : o.Res → Prog Int} (ht : c.2 t = .call o k) : ∃ c', Sys.Step c c' :=
  ((removals_sound ls hls hs (fun _ => False) fun _ h => nomatch h.symm.trans hr).reach
    (fun _ _ _ _ hr h => hr.owns (fun _ _ _ h => h.1) h) hc).progress
    (fun _ _ _ h => h.2) (fun _ _ _ h => h) ht

theorem removals_progress_raceSys :
    (∀ x, raceSys.owner x = none) ∧ raceSys.renamer = none ∧
    ∃ c', Sys.Step (raceSys, Locker.threads fun _ => some (.unlink ['/', 'a', '/', 'f'])) c' :=
  ⟨fun _ => rfl, rfl,
    removals_progress _ (fun _ _ h => by cases h; rfl) (fun _ => rfl) rfl .refl (t := 0) rfl⟩

end Worlds

/-! ## The races -/

section Races
open Dcache

theorem raceTree_fresh : raceTree.Fresh 4 :=
  ⟨rfl, by decide, fun x hx => by simp only [raceTree] at hx; split at hx <;> simp at hx⟩

/-- Thread 1's rename, run alone: `/a` and `/b` are siblings, so `lock_rename` has no trap;
`f` is found in `/a`, a fresh dentry stands for `f` in `/b`, and `vfs_rename` moves the file. -/
theorem raceThreads_rename (p : Prog Int) :
    (raceThreads p 1).Steps (Sys.kernel 1) raceSys (.ret 0) movedSys := by
  have h : (raceThreads p 1).Steps (Sys.kernel 1) raceSys (.ret 0) _ :=
    .call (r := (.ok ⟨0, 1⟩ : Except Int Path)) (by exact ⟨_, rfl, rfl⟩) <|
    .call (r := (.ok ⟨0, 2⟩ : Except Int Path)) (by exact ⟨_, rfl, rfl⟩) <|
    .call (r := (none : Option Dentry))
      (by exact ⟨rfl, rfl, Or.inr rfl, trap_siblings rfl rfl rfl (by decide) (by decide)
        (by decide), rfl⟩) <|
    .call (r := (.ok 3 : Except Int Dentry)) (by exact ⟨_, ⟨by decide, Or.inl ⟨rfl, rfl⟩⟩, rfl⟩) <|
    .call (r := false) (by exact ⟨_, ⟨rfl, rfl⟩, rfl⟩) <|
    .call (r := (.ok 4 : Except Int Dentry))
      (by exact ⟨_, ⟨by decide, Or.inr ⟨raceTree_fresh, rfl⟩⟩, rfl⟩) <|
    .call (r := (0 : Int))
      (by exact ⟨_, Or.inr ⟨rfl, by decide, rfl, rfl, by decide, rfl, by decide, rfl⟩, rfl⟩) <|
    .call (r := ()) (by exact ⟨_, rfl, rfl⟩) <|
    .call (r := ()) (by exact ⟨_, rfl, rfl⟩) <|
    .call (r := ()) (by exact rfl) <|
    .call (r := ()) (by exact ⟨_, rfl, rfl⟩) <|
    .call (r := ()) (by exact ⟨_, rfl, rfl⟩) <| .refl _ _
  convert h using 1
  refine Sys.ext rfl (funext fun x => ?_) rfl
  simp only [movedSys, raceSys, Sys.unlock, Sys.lock, Function.update_apply]
  split_ifs <;> rfl

/-- `smb_vfs_unlink` of `/a/f` against the rename: thread 0 reads `/a` as the parent and is
overtaken; it then locks `/a`, calls `vfs_unlink` on `/b`, unlocks `/b`, and returns holding
`/a`. -/
theorem unlink_race : ∃ c₁ c₂ c₃ : Sys.Config,
    ReflTransGen Sys.Step (raceSys, raceThreads (smbVfsUnlink ['/', 'a', '/', 'f'])) c₁ ∧
    Sys.Breaks c₁ 0 (.vfsUnlink 2 3) ∧
    ReflTransGen Sys.Step c₁ c₂ ∧ Sys.Breaks c₂ 0 (.mutexUnlock (.iMutex 2)) ∧
    ReflTransGen Sys.Step c₂ c₃ ∧ c₃.2 0 = .ret 0 ∧ c₃.2 1 = .ret 0 ∧ c₃.1.owner 1 = some 0 := by
  refine ⟨_, _, _,
    -- thread 0 resolves `/a/f` and reads its parent, `/a`; thread 1 renames
    ReflTransGen.trans (Prog.Steps.reach (t := 0) rfl <|
      .call (r := (.ok ⟨0, 3⟩ : Except Int Path)) (by exact ⟨_, rfl, rfl⟩) <|
      .call (r := ()) (by exact ⟨_, rfl, rfl⟩) <|
      .call (r := (1 : Dentry)) (by exact ⟨_, ⟨rfl, rfl⟩, rfl⟩) <| .refl _ _) <|
    ReflTransGen.trans (Prog.Steps.reach (t := 1) rfl (raceThreads_rename (smbVfsUnlink ['/', 'a', '/', 'f']))) <|
    -- thread 0 locks `/a`, and finds `/b` as the parent for `vfs_unlink`
    Prog.Steps.reach (t := 0) rfl <|
      .call (r := ()) (by exact ⟨rfl, rfl⟩) <|
      .call (r := ({ (default : Inode) with iNlink := 1 } : Inode)) (by exact ⟨_, rfl, rfl⟩) <|
      .call (r := (2 : Dentry)) (by exact ⟨_, ⟨rfl, rfl⟩, rfl⟩) <| .refl _ _,
    ?_,
    -- `vfs_unlink` succeeds, and thread 0 finds `/b` again for the unlock
    Prog.Steps.reach (t := 0) rfl <|
      .call (r := (0 : Int)) (by exact ⟨_, Or.inr ⟨rfl, rfl⟩, rfl⟩) <|
      .call (r := (2 : Dentry)) (by exact ⟨_, ⟨rfl, rfl⟩, rfl⟩) <| .refl _ _,
    ?_,
    Prog.Steps.reach (t := 0) rfl <|
      .call (r := ()) (by exact rfl) <|
      .call (r := ()) (by exact ⟨_, rfl, rfl⟩) <|
      .call (r := ()) (by exact ⟨_, rfl, rfl⟩) <| .refl _ _,
    rfl, rfl, rfl⟩
  · exact ⟨⟨_, rfl⟩, fun h => absurd h.2 (by decide)⟩
  · exact ⟨⟨_, rfl⟩, fun h => absurd (show _ = some 0 from h) (by decide)⟩

/-- `smb_vfs_rmdir` of `/a/f` against the rename: thread 0 locks `/a` and calls `vfs_rmdir` on
`/b`. -/
theorem rmdir_race : ∃ c : Sys.Config,
    ReflTransGen Sys.Step (raceSys, raceThreads (smbVfsRmdir ['/', 'a', '/', 'f'])) c ∧
    Sys.Breaks c 0 (.vfsRmdir 2 3) := by
  refine ⟨_,
    ReflTransGen.trans (Prog.Steps.reach (t := 0) rfl <|
      .call (r := (.ok ⟨0, 3⟩ : Except Int Path)) (by exact ⟨_, rfl, rfl⟩) <|
      .call (r := (1 : Dentry)) (by exact ⟨_, ⟨rfl, rfl⟩, rfl⟩) <| .refl _ _) <|
    ReflTransGen.trans
      (Prog.Steps.reach (t := 1) rfl (raceThreads_rename (smbVfsRmdir ['/', 'a', '/', 'f']))) <|
    Prog.Steps.reach (t := 0) rfl <|
      .call (r := ()) (by exact ⟨rfl, rfl⟩) <|
      .call (r := (2 : Dentry)) (by exact ⟨_, ⟨rfl, rfl⟩, rfl⟩) <| .refl _ _, ?_⟩
  exact ⟨⟨_, rfl⟩, fun h => absurd h.2 (by decide)⟩

theorem movedSys_fresh : movedSys.cache.Fresh 5 := by
  refine ⟨rfl, by decide, fun x hx => ?_⟩
  simp only [movedSys, dMove, attach, raceTree, Function.update_apply] at hx
  split_ifs at hx <;> simp at hx

/-- `smb_vfs_rename` of the handle 0, open on `/a/f`, to `/b/g`, against the rename: thread 0
reads `/a` as the source's parent, is overtaken, locks `/a` and `/b`, and passes `/a` to
`vfs_rename` as the parent of the file, which hangs under `/b`. -/
theorem renameByFid_race : ∃ c : Sys.Config,
    ReflTransGen Sys.Step (raceSys, raceThreads (smbVfsRename none ['/', 'b', '/', 'g'] 0)) c ∧
    Sys.Breaks c 0 (.vfsRename 1 3 2 5) := by
  refine ⟨_,
    ReflTransGen.trans (Prog.Steps.reach (t := 0) rfl <|
      .call (r := (some ⟨⟨7, ⟨0, 3⟩⟩⟩ : Option CifssrvFile)) (by exact ⟨_, rfl, rfl⟩) <|
      .call (r := (1 : Dentry)) (by exact ⟨_, ⟨rfl, rfl⟩, rfl⟩) <| .refl _ _) <|
    ReflTransGen.trans (Prog.Steps.reach (t := 1) rfl
      (raceThreads_rename (smbVfsRename none ['/', 'b', '/', 'g'] 0))) <|
    -- `/b` is resolved and both parents are locked; the source is still positive
    Prog.Steps.reach (t := 0) rfl <|
      .call (r := (.ok ⟨0, 2⟩ : Except Int Path)) (by exact ⟨_, rfl, rfl⟩) <|
      .call (r := (none : Option Dentry))
        (by exact ⟨rfl, rfl, Or.inr rfl, trap_siblings rfl rfl rfl (by decide) (by decide)
          (by decide), rfl⟩) <|
      .call (r := ()) (by exact ⟨_, rfl, rfl⟩) <|
      .call (r := false) (by exact ⟨_, ⟨rfl, rfl⟩, rfl⟩) <|
      .call (r := (.ok 5 : Except Int Dentry))
        (by exact ⟨_, ⟨by decide, Or.inr ⟨movedSys_fresh, rfl⟩⟩, rfl⟩) <| .refl _ _, ?_⟩
  exact ⟨⟨_, rfl⟩, fun h => absurd h.1 (by decide)⟩

/-- Each helper that reads a parent before locking it breaks the discipline when a rename
overtakes it. -/
theorem parentDiscipline_races :
    (∃ c₁ c₂ c₃ : Sys.Config,
      ReflTransGen Sys.Step (raceSys, raceThreads (smbVfsUnlink ['/', 'a', '/', 'f'])) c₁ ∧
      Sys.Breaks c₁ 0 (.vfsUnlink 2 3) ∧
      ReflTransGen Sys.Step c₁ c₂ ∧ Sys.Breaks c₂ 0 (.mutexUnlock (.iMutex 2)) ∧
      ReflTransGen Sys.Step c₂ c₃ ∧ c₃.2 0 = .ret 0 ∧ c₃.2 1 = .ret 0 ∧ c₃.1.owner 1 = some 0) ∧
    (∃ c : Sys.Config,
      ReflTransGen Sys.Step (raceSys, raceThreads (smbVfsRmdir ['/', 'a', '/', 'f'])) c ∧
      Sys.Breaks c 0 (.vfsRmdir 2 3)) ∧
    (∃ c : Sys.Config,
      ReflTransGen Sys.Step (raceSys, raceThreads (smbVfsRename none ['/', 'b', '/', 'g'] 0)) c ∧
      Sys.Breaks c 0 (.vfsRename 1 3 2 5)) :=
  ⟨unlink_race, rmdir_race, renameByFid_race⟩

end Races

end CifsdVfs

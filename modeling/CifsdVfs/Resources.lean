import CifsdVfs.Trace
import CifsdVfs.Vfs.Call

/-!
# Every helper gives back what it takes, and locks what it must

`Prog.Tidy p kept`: whatever the kernel answers, `p` run on top of any ledger releases every
resource it takes, in the reverse order of taking, restores the address limit, and leaves on
top only `kept r` for its result `r`.  By `Tidy.balanced` a tidy helper's trace is balanced
against every backend, and by `Ledger.Balanced.count` each resource in it is then given back
exactly once.

Each piece of a helper that the C code reaches by `goto` has its own lemma, stated for any
postcondition that holds at the ledger the piece returns to; the callers cite it and never
unfold the piece.  Every call but `smb_vfs_listxattr` is tidy, keeping only the buffer it
hands out (`Call.run_tidy`).  `smb_vfs_listxattr` keeps its buffer also when it fails.

The same runs, followed by `Ledger.guard`, show that each call the kernel expects to be
made under a lock is made holding it: `Prog.Locked` is `Prog.Tidy` under the guard, and
each helper's tidiness is a corollary of its lemma for the guard.  `smb_vfs_symlink` creates
its link in `dentry->d_parent`, which is locked only because `kern_path_create` hung the
dentry under the parent whose mutex it took; its runs are those of `lockA`.  Every call is
`Prog.LockSafe` (`Call.run_lockSafe`).
-/

namespace CifsdVfs
open Prog

/-- Whatever the kernel answers in a sequential run, `p` gives back everything it takes but
`kept r`. -/
def Prog.Tidy {α : Type} (p : Prog α) (kept : α → List Res) : Prop :=
  ∀ (parent : Dentry → Dentry) (l : Ledger),
    p.Wp (ledgerA l.fs parent) Ledger.step l fun r l' => l' = ⟨kept r ++ l.held, l.fs⟩

/-- A tidy helper leaves a balanced trace on every backend. -/
theorem Prog.Tidy.balanced {α : Type} {p : Prog α} {kept : α → List Res} (h : p.Tidy kept)
    (b : Backend) : Ledger.Balanced (b.answer .getFs) (p.exec b).2 (kept (p.exec b).1) := by
  obtain ⟨l, hrun, rfl⟩ := Wp.exec (ledgerA_answer b) (h _ ⟨[], b.answer .getFs⟩)
  simpa [Ledger.Balanced, Ledger.run] using hrun

/-- `p` is tidy, and makes each call holding the locks it needs (`Ledger.guard`). -/
def Prog.Locked {α : Type} (p : Prog α) (kept : α → List Res) : Prop :=
  ∀ (parent : Dentry → Dentry) (l : Ledger),
    p.Wp (ledgerA l.fs parent) Ledger.guard l fun r l' => l' = ⟨kept r ++ l.held, l.fs⟩

/-- Whatever the kernel answers in a sequential run, `p` makes each call holding the locks
it needs. -/
def Prog.LockSafe {α : Type} (p : Prog α) : Prop :=
  ∀ (parent : Dentry → Dentry) (l : Ledger),
    p.Wp (lockA l.fs parent) Ledger.guard l fun _ _ => True

theorem Prog.Locked.lockSafe {α : Type} {p : Prog α} {kept : α → List Res} (h : p.Locked kept) :
    p.LockSafe :=
  fun parent l => ((h parent l).of_answers fun _ _ h => h.1).mono fun _ _ _ => trivial

/-- On a backend that hangs what `kern_path_create` returns under its parent, the guard
accepts the whole trace of a lock-safe helper. -/
theorem Prog.LockSafe.exec {α : Type} {p : Prog α} (h : p.LockSafe) (b : Backend)
    (hb : ∀ name flags p d, b.answer (.kernPathCreate name flags) = .ok (p, d) →
      b.answer (.dParent d) = p.dentry) :
    ∃ l, (p.exec b).2.foldlM Ledger.guard ⟨[], b.answer .getFs⟩ = some l :=
  let ⟨l, hl, _⟩ := Wp.exec (lockA_answer b hb) (h _ ⟨[], b.answer .getFs⟩)
  ⟨l, hl⟩

/-! ## The pieces of the helpers -/

section Pieces
variable {A : (o : Op) → o.Res → Prop} {Q : Int → Ledger → Prop} {held : List Res}
  {fs : MmSegment}

theorem smbVfsLocksMandatoryArea_wp (filp : Filp) (start stop : Int) (type : LockType)
    (h : ∀ r, Q r ⟨held, fs⟩) :
    (smbVfsLocksMandatoryArea filp start stop type).Wp A Ledger.guard ⟨held, fs⟩ Q := by
  simp only [smbVfsLocksMandatoryArea, bind_eq, pure_eq, invoke_bind, ret_bind, wp_call, wp_ite,
    wp_ret, Ledger.guard_of_needs, Op.needs, List.forall_mem_cons, List.not_mem_nil, false_implies,
    implies_true, List.mem_cons_self, List.mem_cons_of_mem, and_true, Ledger.step_untouched,
    Op.touchesLedger, Option.some.injEq, exists_eq_left', h, and_self]

theorem smbVfsSetattrNotify_wp (dentry : Dentry) (ino : Nat) (attrs : Iattr)
    (h : ∀ r, Q r ⟨held, fs⟩) :
    (smbVfsSetattrNotify dentry ino attrs false).Wp A Ledger.guard ⟨held, fs⟩ Q := by
  simp only [smbVfsSetattrNotify, bind_eq, pure_eq, invoke_bind, call_bind, ret_bind, wp_call,
    wp_ite, wp_bind, wp_ret, Ledger.guard_of_needs, Op.needs, List.forall_mem_cons,
    List.not_mem_nil, false_implies, implies_true, List.mem_cons_self, List.mem_cons_of_mem,
    and_true, Ledger.step_untouched, Op.touchesLedger, Ledger.step_mutexLock,
    Ledger.step_mutexUnlock, Ledger.popAll_cons_self, Ledger.popAll_nil, Option.map_some',
    Option.some.injEq, exists_eq_left', and_self, h, Bool.false_eq_true, true_and]

/-- With `update_size` set, the write access on top is given back after `notify_change`. -/
theorem smbVfsSetattrNotify_wp_size (dentry : Dentry) (ino : Nat) (attrs : Iattr)
    (h : ∀ r, Q r ⟨held, fs⟩) :
    (smbVfsSetattrNotify dentry ino attrs true).Wp A Ledger.guard
      ⟨.writeAccess ino :: held, fs⟩ Q := by
  simp only [smbVfsSetattrNotify, bind_eq, pure_eq, invoke_bind, call_bind, ret_bind, wp_call,
    wp_ite, wp_bind, wp_ret, Ledger.guard_of_needs, Op.needs, List.forall_mem_cons,
    List.not_mem_nil, false_implies, implies_true, List.mem_cons_self, List.mem_cons_of_mem,
    and_true, Ledger.step_untouched, Op.touchesLedger, Ledger.step_putWriteAccess,
    Ledger.step_mutexLock, Ledger.step_mutexUnlock, Ledger.popAll_cons_self, Ledger.popAll_nil,
    Option.map_some', Option.some.injEq, exists_eq_left', and_self, h, forall_const,
    not_true_eq_false]

theorem smbVfsSetattrSize_wp (dentry : Dentry) (inode : Inode) (attrs : Iattr)
    (h : ∀ r, Q r ⟨held, fs⟩) :
    (smbVfsSetattrSize dentry inode attrs).Wp A Ledger.guard ⟨held, fs⟩ Q := by
  simp +contextual only [smbVfsSetattrSize, bind_eq, pure_eq, invoke_bind, call_bind, ret_bind,
    wp_call, wp_ite, wp_ret, Ledger.guard_of_needs, Op.needs, List.forall_mem_cons,
    List.not_mem_nil, false_implies, implies_true, List.mem_cons_self, List.mem_cons_of_mem,
    and_true, Ledger.step_untouched, Op.touchesLedger, Ledger.step_getWriteAccess,
    Ledger.step_putWriteAccess, Ledger.popAll_cons_self, Ledger.popAll_nil, Option.map_some',
    Option.some.injEq, exists_eq_left', and_self, h, if_pos, if_false, ne_eq, not_not,
    smbVfsSetattrNotify_wp, smbVfsSetattrNotify_wp_size]

theorem smbVfsSetattrDentry_wp (dentry : Dentry) (attrs : Iattr) (h : ∀ r, Q r ⟨held, fs⟩) :
    (smbVfsSetattrDentry dentry attrs).Wp A Ledger.guard ⟨held, fs⟩ Q := by
  simp only [smbVfsSetattrDentry, bind_eq, pure_eq, invoke_bind, ret_bind, wp_call, wp_ite, wp_ret,
    Ledger.guard_of_needs, Op.needs, List.forall_mem_cons, List.not_mem_nil, false_implies,
    implies_true, List.mem_cons_self, List.mem_cons_of_mem, and_true, Ledger.step_untouched,
    Op.touchesLedger, Option.some.injEq, exists_eq_left', h, smbVfsSetattrSize_wp, true_and]

/-! The pieces of `smb_vfs_rename` run under the lock `lock_rename` took on the two parents. -/

section Rename
variable {doldP dnewP : Dentry} (hl : .renameLock doldP dnewP ∈ held)
include hl

theorem smbVfsRenameTarget_wp (dold : Dentry) (newname : CStr) (trap : Option Dentry)
    (h : ∀ r, Q r ⟨held, fs⟩) :
    (smbVfsRenameTarget doldP dold dnewP newname trap).Wp A Ledger.guard ⟨held, fs⟩ Q := by
  simp only [smbVfsRenameTarget, smbVfsRenameTo, bind_eq, pure_eq, invoke_bind, call_bind, ret_bind,
    wp_call, wp_ite, wp_bind, wp_ret, Ledger.guard_of_needs, Op.needs, List.forall_mem_cons,
    List.not_mem_nil, false_implies, implies_true, List.mem_cons_self, List.mem_cons_of_mem,
    and_true, hl, Ledger.step_untouched, Op.touchesLedger, Ledger.step_lookupOneLen_ok,
    Ledger.step_lookupOneLen_error, Ledger.step_dput, Ledger.popAll_cons_self, Ledger.popAll_nil,
    Option.map_some', Option.some.injEq, exists_eq_left', forall_res_lookupOneLen, and_self, h]

/-- The source's reference, on top of the ledger, is given back on every path. -/
theorem smbVfsRenameSource_wp (dold : Dentry) (newname : CStr) (trap : Option Dentry)
    (h : ∀ r, Q r ⟨held, fs⟩) :
    (smbVfsRenameSource doldP dold dnewP newname trap).Wp A Ledger.guard
      ⟨.dentry dold :: held, fs⟩ Q := by
  simp only [smbVfsRenameSource, bind_eq, pure_eq, invoke_bind, call_bind, ret_bind, wp_call,
    wp_ite, wp_bind, wp_ret, Ledger.guard_of_needs, Op.needs, List.forall_mem_cons,
    List.not_mem_nil, false_implies, implies_true, List.mem_cons_self, List.mem_cons_of_mem,
    and_true, Ledger.step_untouched, Op.touchesLedger, Ledger.step_dput,
    smbVfsRenameTarget_wp (List.mem_cons_of_mem _ hl), Ledger.popAll_cons_self, Ledger.popAll_nil,
    Option.map_some', Option.some.injEq, exists_eq_left', forall_res_dNegative, and_self, h,
    Bool.false_eq_true, if_false, if_true]

end Rename

theorem smbVfsRenameLocked_wp (doldP dnewP : Dentry) (src : RenameSource) (newname : CStr)
    (h : ∀ r, Q r ⟨held, fs⟩) :
    (smbVfsRenameLocked doldP dnewP src newname).Wp A Ledger.guard ⟨held, fs⟩ Q := by
  have hl := List.mem_cons_self (Res.renameLock doldP dnewP) held
  cases src <;>
  simp only [smbVfsRenameLocked, bind_eq, pure_eq, invoke_bind, call_bind, ret_bind,
    wp_call, wp_bind, wp_ret, Ledger.guard_of_needs, Op.needs, List.forall_mem_cons,
    List.not_mem_nil, false_implies, implies_true, List.mem_cons_self, List.mem_cons_of_mem,
    and_true, Ledger.step_untouched, Op.touchesLedger, Ledger.step_lockRename,
    Ledger.step_unlockRename, Ledger.step_dget, Ledger.step_lookupOneLen_ok,
    Ledger.step_lookupOneLen_error, smbVfsRenameSource_wp hl, Ledger.popAll_cons_self,
    Ledger.popAll_nil, Option.map_some', Option.some.injEq, exists_eq_left',
    forall_res_lookupOneLen, and_self, h]

end Pieces

/-! ## The helpers -/

section Helpers
variable (parent : Dentry → Dentry) (held : List Res) (fs : MmSegment)

theorem smbVfsCreate_locked (name : CStr) (mode : Umode) :
    (smbVfsCreate name mode).Locked fun _ => [] := by
  rintro parent ⟨held, fs⟩
  simp only [smbVfsCreate, bind_eq, pure_eq, invoke_bind, call_bind, ret_bind, wp_call, wp_ret,
    Ledger.guard_of_needs, Op.needs, List.forall_mem_cons, List.not_mem_nil, false_implies,
    implies_true, List.mem_cons_self, List.mem_cons_of_mem, and_true, Ledger.step_untouched,
    Op.touchesLedger, Ledger.step_kernPathCreate_ok, Ledger.step_kernPathCreate_error,
    Ledger.step_donePathCreate, Ledger.popAll_cons_self, Ledger.popAll_nil, Option.map_some',
    Option.some.injEq, exists_eq_left', forall_res_kernPathCreate, List.nil_append, and_self]

theorem smbVfsMkdir_locked (name : CStr) (mode : Umode) :
    (smbVfsMkdir name mode).Locked fun _ => [] := by
  rintro parent ⟨held, fs⟩
  simp only [smbVfsMkdir, bind_eq, pure_eq, invoke_bind, call_bind, ret_bind, wp_call, wp_ret,
    Ledger.guard_of_needs, Op.needs, List.forall_mem_cons, List.not_mem_nil, false_implies,
    implies_true, List.mem_cons_self, List.mem_cons_of_mem, and_true, Ledger.step_untouched,
    Op.touchesLedger, Ledger.step_kernPathCreate_ok, Ledger.step_kernPathCreate_error,
    Ledger.step_donePathCreate, Ledger.popAll_cons_self, Ledger.popAll_nil, Option.map_some',
    Option.some.injEq, exists_eq_left', forall_res_kernPathCreate, List.nil_append, and_self]

theorem smbVfsRead_locked (fid count : Nat) (pos : Int) :
    (smbVfsRead fid count pos).Locked fun r => r.2.1.toList.map .vmalloc := by
  rintro parent ⟨held, fs⟩
  simp only [smbVfsRead, bind_eq, pure_eq, invoke_bind, call_bind, ret_bind, wp_call, wp_ite,
    wp_bind, wp_ret, Ledger.guard_of_needs, Op.needs, List.forall_mem_cons, List.not_mem_nil,
    false_implies, implies_true, List.mem_cons_self, List.mem_cons_of_mem, and_true,
    Ledger.step_untouched, Op.touchesLedger, smbVfsLocksMandatoryArea_wp, Ledger.step_vmalloc_some,
    Ledger.step_vmalloc_none, Ledger.step_setFs, Ledger.step_vfree, Ledger.popAll_cons_self,
    Ledger.popAll_nil, Option.map_some', Option.some.injEq, exists_eq_left', forall_eq,
    ledgerA_getFs, forall_res_getIdFromFidtable, forall_res_vmalloc, Option.toList_none,
    Option.toList_some, List.map_nil, List.map_cons, List.nil_append, List.singleton_append,
    true_and, and_self, forall_const]

theorem smbVfsWrite_locked (oplocksEnable : Bool) (fid buf count : Nat) (pos : Int) (sync : Bool) :
    (smbVfsWrite oplocksEnable fid buf count pos sync).Locked fun _ => [] := by
  rintro parent ⟨held, fs⟩
  simp only [smbVfsWrite, bind_eq, pure_eq, invoke_bind, call_bind, ret_bind, wp_call, wp_ite,
    wp_bind, wp_ret, Ledger.guard_of_needs, Op.needs, List.forall_mem_cons, List.not_mem_nil,
    false_implies, implies_true, List.mem_cons_self, List.mem_cons_of_mem, and_true,
    Ledger.step_untouched, Op.touchesLedger, smbVfsLocksMandatoryArea_wp, Ledger.step_setFs,
    Ledger.step_mutexLock, Ledger.step_mutexUnlock, Ledger.popAll_cons_self, Ledger.popAll_nil,
    Option.map_some', Option.some.injEq, exists_eq_left', forall_eq, ledgerA_getFs,
    forall_res_getIdFromFidtable, List.nil_append, true_and, and_self, forall_const]

theorem smbVfsSetattr_locked (name : Option CStr) (fid : Nat) (attrs : Iattr) :
    (smbVfsSetattr name fid attrs).Locked fun _ => [] := by
  rintro parent ⟨held, fs⟩
  cases name <;>
  simp only [smbVfsSetattr, bind_eq, pure_eq, invoke_bind, call_bind, ret_bind,
    wp_call, wp_bind, wp_ret, Ledger.guard_of_needs, Op.needs, List.forall_mem_cons,
    List.not_mem_nil, false_implies, implies_true, List.mem_cons_self, List.mem_cons_of_mem,
    and_true, Ledger.step_untouched, Op.touchesLedger, smbVfsSetattrDentry_wp,
    Ledger.step_kernPath_ok, Ledger.step_kernPath_error, Ledger.step_pathPut,
    Ledger.popAll_cons_self, Ledger.popAll_nil, Option.map_some', Option.some.injEq,
    exists_eq_left', forall_res_kernPath, forall_res_getIdFromFidtable, List.nil_append, and_self]

theorem smbVfsGetattr_locked (fid : Nat) : (smbVfsGetattr fid).Locked fun _ => [] := by
  rintro parent ⟨held, fs⟩
  simp only [smbVfsGetattr, bind_eq, pure_eq, invoke, call_bind, ret_bind, wp_call, wp_ret,
    Ledger.guard_of_needs, Op.needs, List.forall_mem_cons, List.not_mem_nil, false_implies,
    implies_true, List.mem_cons_self, List.mem_cons_of_mem, and_true, Ledger.step_untouched,
    Op.touchesLedger, Option.some.injEq, exists_eq_left', forall_res_getIdFromFidtable,
    List.nil_append, and_self]

theorem smbVfsFsync_locked (fid : Nat) : (smbVfsFsync fid).Locked fun _ => [] := by
  rintro parent ⟨held, fs⟩
  simp only [smbVfsFsync, bind_eq, pure_eq, invoke, call_bind, ret_bind, wp_call, wp_ret,
    Ledger.guard_of_needs, Op.needs, List.forall_mem_cons, List.not_mem_nil, false_implies,
    implies_true, List.mem_cons_self, List.mem_cons_of_mem, and_true, Ledger.step_untouched,
    Op.touchesLedger, Option.some.injEq, exists_eq_left', forall_res_getIdFromFidtable,
    List.nil_append, and_self]

theorem smbVfsRmdir_locked (name : CStr) : (smbVfsRmdir name).Locked fun _ => [] := by
  rintro parent ⟨held, fs⟩
  simp only [smbVfsRmdir, bind_eq, pure_eq, invoke_bind, call_bind, ret_bind, wp_call, wp_ret,
    Ledger.guard_of_needs, Op.needs, List.forall_mem_cons, List.not_mem_nil, false_implies,
    implies_true, List.mem_cons_self, List.mem_cons_of_mem, and_true, Ledger.step_untouched,
    Op.touchesLedger, Ledger.step_kernPath_ok, Ledger.step_kernPath_error, Ledger.step_pathPut,
    Ledger.step_mutexLock, Ledger.step_mutexUnlock, Ledger.popAll_cons_self, Ledger.popAll_nil,
    Option.map_some', Option.some.injEq, exists_eq_left', forall_eq, ledgerA_dParent,
    forall_res_kernPath, List.nil_append, and_self]

theorem smbVfsUnlink_locked (name : CStr) : (smbVfsUnlink name).Locked fun _ => [] := by
  rintro parent ⟨held, fs⟩
  simp only [smbVfsUnlink, bind_eq, pure_eq, invoke_bind, call_bind, ret_bind, wp_call, wp_ite,
    wp_bind, wp_ret, Ledger.guard_of_needs, Op.needs, List.forall_mem_cons, List.not_mem_nil,
    false_implies, implies_true, List.mem_cons_self, List.mem_cons_of_mem, and_true,
    Ledger.step_untouched, Op.touchesLedger, Ledger.step_kernPath_ok, Ledger.step_kernPath_error,
    Ledger.step_pathPut, Ledger.step_dget, Ledger.step_dput, Ledger.step_mutexLock,
    Ledger.step_mutexUnlock, Ledger.popAll_cons_self, Ledger.popAll_nil, Option.map_some',
    Option.some.injEq, exists_eq_left', forall_eq, ledgerA_dParent, forall_res_kernPath,
    List.nil_append, and_self]

theorem smbVfsLink_locked (oldname newname : CStr) : (smbVfsLink oldname newname).Locked fun _ => [] := by
  rintro parent ⟨held, fs⟩
  simp only [smbVfsLink, bind_eq, pure_eq, invoke_bind, call_bind, ret_bind, wp_call, wp_ite,
    wp_bind, wp_ret, Ledger.guard_of_needs, Op.needs, List.forall_mem_cons, List.not_mem_nil,
    false_implies, implies_true, List.mem_cons_self, List.mem_cons_of_mem, and_true,
    Ledger.step_untouched, Op.touchesLedger, Ledger.step_kernPath_ok, Ledger.step_kernPath_error,
    Ledger.step_pathPut, Ledger.step_kernPathCreate_ok, Ledger.step_kernPathCreate_error,
    Ledger.step_donePathCreate, Ledger.popAll_cons_self, Ledger.popAll_nil, Option.map_some',
    Option.some.injEq, exists_eq_left', forall_res_kernPath, forall_res_kernPathCreate,
    List.nil_append, and_self]

/-- `smb_vfs_symlink` creates the link in `dentry->d_parent`: under the mutex that
`kern_path_create` took, as long as the new dentry hangs under the parent it returned. -/
theorem smbVfsSymlink_locked (name symname : CStr) (parent : Dentry → Dentry) (l : Ledger) :
    (smbVfsSymlink name symname).Wp (lockA l.fs parent) Ledger.guard l fun _ l' => l' = l := by
  obtain ⟨held, fs⟩ := l
  simp +contextual only [smbVfsSymlink, bind_eq, pure_eq, invoke_bind, call_bind, ret_bind, wp_call,
    wp_ret, Ledger.guard_of_needs, Op.needs, List.forall_mem_cons, List.not_mem_nil, false_implies,
    implies_true, List.mem_cons_self, List.mem_cons_of_mem, and_true, Ledger.step_untouched,
    Op.touchesLedger, Ledger.step_kernPathCreate_ok, Ledger.step_kernPathCreate_error,
    Ledger.step_donePathCreate, Ledger.popAll_cons_self, Ledger.popAll_nil, Option.map_some',
    Option.some.injEq, exists_eq_left', forall_eq, lockA_dParent, lockA_kernPathCreate_ok,
    forall_res_kernPathCreate, and_self]

theorem smbVfsReadlink_locked (path : Option Path) (buf : Nat) (lenp : Int) :
    (smbVfsReadlink path buf lenp).Locked fun _ => [] := by
  rintro parent ⟨held, fs⟩
  cases path <;>
  simp only [smbVfsReadlink, bind_eq, pure_eq, invoke_bind, call_bind, ret_bind,
    wp_call, wp_ite, wp_ret, Ledger.guard_of_needs, Op.needs, List.forall_mem_cons,
    List.not_mem_nil, false_implies, implies_true, List.mem_cons_self, List.mem_cons_of_mem,
    and_true, Ledger.step_untouched, Op.touchesLedger, Ledger.step_setFs, Option.some.injEq,
    exists_eq_left', forall_eq, ledgerA_getFs, List.nil_append, and_self]

theorem smbVfsRename_locked (absOldname : Option CStr) (absNewname : CStr) (oldfid : Nat) :
    (smbVfsRename absOldname absNewname oldfid).Locked fun _ => [] := by
  rintro parent ⟨held, fs⟩
  unfold smbVfsRename
  cases absOldname with
  | none =>
    cases lastComponent absNewname <;>
    simp only [bind_eq, pure_eq, invoke_bind, call_bind, ret_bind, wp_call, wp_bind, wp_ret,
      Ledger.guard_of_needs, Op.needs, List.forall_mem_cons, List.not_mem_nil, false_implies,
      implies_true, List.mem_cons_self, List.mem_cons_of_mem, and_true, Ledger.step_untouched,
      Op.touchesLedger, Ledger.step_kernPath_ok, Ledger.step_kernPath_error, Ledger.step_pathPut,
      smbVfsRenameLocked_wp, Ledger.popAll_cons_self, Ledger.popAll_nil, Option.map_some',
      Option.some.injEq, exists_eq_left', forall_res_kernPath, forall_res_getIdFromFidtable,
      List.nil_append, and_self]
  | some absOldname =>
    dsimp only
    cases lastComponent absOldname <;> cases lastComponent absNewname <;>
    simp only [bind_eq, pure_eq, invoke_bind, call_bind, ret_bind, wp_call, wp_bind, wp_ret,
      Ledger.guard_of_needs, Op.needs, List.forall_mem_cons, List.not_mem_nil, false_implies,
      implies_true, List.mem_cons_self, List.mem_cons_of_mem, and_true, Ledger.step_untouched,
      Op.touchesLedger, Ledger.step_kernPath_ok, Ledger.step_kernPath_error, Ledger.step_pathPut,
      smbVfsRenameLocked_wp, Ledger.popAll_cons_self, Ledger.popAll_nil, Option.map_some',
      Option.some.injEq, exists_eq_left', forall_res_kernPath, List.nil_append, and_self]

theorem smbVfsTruncate_locked (oplocksEnable : Bool) (name : Option CStr) (fid : Nat) (size : Int) :
    (smbVfsTruncate oplocksEnable name fid size).Locked fun _ => [] := by
  rintro parent ⟨held, fs⟩
  cases name <;>
  simp only [smbVfsTruncate, bind_eq, pure_eq, invoke, call_bind, ret_bind,
    wp_call, wp_ite, wp_bind, wp_ret, Ledger.guard_of_needs, Op.needs, List.forall_mem_cons,
    List.not_mem_nil, false_implies, implies_true, List.mem_cons_self, List.mem_cons_of_mem,
    and_true, Ledger.step_untouched, Op.touchesLedger, smbVfsLocksMandatoryArea_wp,
    Ledger.step_kernPath_ok, Ledger.step_kernPath_error, Ledger.step_pathPut, Ledger.step_mutexLock,
    Ledger.step_mutexUnlock, Ledger.popAll_cons_self, Ledger.popAll_nil, Option.map_some',
    Option.some.injEq, exists_eq_left', forall_res_kernPath, forall_res_getIdFromFidtable,
    List.nil_append, true_and, and_self, forall_const]

theorem smbVfsGetxattr_locked (dentry : Dentry) (xattrName : CStr) (xattrBuf bufLen : Nat) :
    (smbVfsGetxattr dentry xattrName xattrBuf bufLen).Locked fun _ => [] := by
  rintro parent ⟨held, fs⟩
  simp only [smbVfsGetxattr, bind_eq, pure_eq, invoke, call_bind, ret_bind, wp_call, wp_ite, wp_ret,
    Ledger.guard_of_needs, Op.needs, List.forall_mem_cons, List.not_mem_nil, false_implies,
    implies_true, List.mem_cons_self, List.mem_cons_of_mem, and_true, Ledger.step_untouched,
    Op.touchesLedger, Option.some.injEq, exists_eq_left', List.nil_append, and_self]

theorem smbVfsSetxattr_locked (filename : Option CStr) (fpath : Path) (name : CStr)
    (value size : Nat) (flags : Int) :
    (smbVfsSetxattr filename fpath name value size flags).Locked fun _ => [] := by
  rintro parent ⟨held, fs⟩
  cases filename <;>
  simp only [smbVfsSetxattr, bind_eq, pure_eq, invoke, call_bind, ret_bind,
    wp_call, wp_ret, Ledger.guard_of_needs, Op.needs, List.forall_mem_cons, List.not_mem_nil,
    false_implies, implies_true, List.mem_cons_self, List.mem_cons_of_mem, and_true,
    Ledger.step_untouched, Op.touchesLedger, Ledger.step_kernPath_ok, Ledger.step_kernPath_error,
    Ledger.step_pathPut, Ledger.popAll_cons_self, Ledger.popAll_nil, Option.map_some',
    Option.some.injEq, exists_eq_left', forall_res_kernPath, List.nil_append, and_self]

theorem smbVfsSetFadvise_locked (le : CreateOptions) (filp : Filp) (option : BitVec 32) :
    (smbVfsSetFadvise le filp option).Locked fun _ => [] := by
  rintro parent ⟨held, fs⟩
  simp only [smbVfsSetFadvise, bind_eq, pure_eq, invoke, call_bind, ret_bind, wp_call, wp_ite,
    wp_ret, Ledger.guard_of_needs, Op.needs, List.forall_mem_cons, List.not_mem_nil, false_implies,
    implies_true, List.mem_cons_self, List.mem_cons_of_mem, and_true, Ledger.step_untouched,
    Op.touchesLedger, Ledger.step_spinLock, Ledger.step_spinUnlock, Ledger.popAll_cons_self,
    Ledger.popAll_nil, Option.map_some', Option.some.injEq, exists_eq_left', forall_res_fMapping,
    List.nil_append, and_self]

theorem smbVfsLock_locked (filp : Filp) (cmd : Int) (flock : FileLock) :
    (smbVfsLock filp cmd flock).Locked fun _ => [] := by
  rintro parent ⟨held, fs⟩
  simp only [smbVfsLock, invoke, wp_call, wp_ret, Ledger.guard_of_needs, Op.needs,
    List.forall_mem_cons, List.not_mem_nil, false_implies, implies_true, List.mem_cons_self,
    List.mem_cons_of_mem, and_true, Ledger.step_untouched, Op.touchesLedger, Option.some.injEq,
    exists_eq_left', List.nil_append]

theorem smbVfsLocksMandatoryArea_locked (filp : Filp) (start stop : Int) (type : LockType) :
    (smbVfsLocksMandatoryArea filp start stop type).Locked fun _ => [] :=
  fun _ _ => smbVfsLocksMandatoryArea_wp filp start stop type fun _ => rfl

theorem smbVfsReaddir_locked (file : Filp) (ctx : Nat) :
    (smbVfsReaddir file ctx).Locked fun _ => [] := by
  rintro parent ⟨held, fs⟩
  simp only [smbVfsReaddir, invoke, wp_call, wp_ret, Ledger.guard_of_needs, Op.needs,
    List.forall_mem_cons, List.not_mem_nil, false_implies, implies_true, List.mem_cons_self,
    List.mem_cons_of_mem, and_true, Ledger.step_untouched, Op.touchesLedger, Option.some.injEq,
    exists_eq_left', List.nil_append]

/-! Each helper but `smb_vfs_symlink` is tidy because it is locked. -/

end Helpers

/-! ## `smb_vfs_listxattr` -/

/-- A kernel on which `vmalloc` returns the buffer `1` and the file has no extended
attribute, so that `vfs_listxattr` returns 0. -/
def noXattrKernel : Backend where
  fileInode _ := default
  outcome
    | .vmalloc _ => some 1
    | _ => default

/-- Listing the attributes of a file that has none, with a 16-byte buffer: the call returns
0 with no list, and buffer `1` is never freed. -/
theorem smbVfsListxattr_keeps_buffer_on_empty_list :
    ((smbVfsListxattr 0 16).exec noXattrKernel).1 = (0, none) ∧
      Ledger.Balanced .kernelDs ((smbVfsListxattr 0 16).exec noXattrKernel).2 [.vmalloc 1] :=
  ⟨rfl, rfl⟩

/-- `smb_vfs_listxattr` makes no call that needs a lock. -/
theorem smbVfsListxattr_lockSafe (dentry : Dentry) (size : Int) : (smbVfsListxattr dentry size).LockSafe := by
  rintro parent ⟨held, fs⟩
  simp only [smbVfsListxattr, bind_eq, pure_eq, invoke_bind, call_bind, ret_bind, wp_call, wp_ite,
    wp_bind, wp_ret, Ledger.guard_of_needs, Op.needs, List.forall_mem_cons, List.not_mem_nil,
    false_implies, implies_true, Ledger.step_untouched, Op.touchesLedger, Ledger.step_vmalloc_some,
    Ledger.step_vmalloc_none, Option.some.injEq, exists_eq_left', forall_res_vmalloc, and_self,
    exists_eq']

/-! ## Every call -/

/-- Every call makes each kernel call that must be made under a lock holding that lock:
the directory's `i_mutex` around `vfs_create`, `vfs_mkdir`, `vfs_symlink`, `vfs_link`,
`vfs_unlink` and `vfs_rmdir`, the inode's around `notify_change`, the rename lock around
`vfs_rename`, `f_lock` around the change of `f_mode`, and `ofile_list_lock` around the
oplock break. -/
theorem Call.run_lockSafe (oplocksEnable : Bool) (le : CreateOptions) (c : Call) :
    (c.run oplocksEnable le).LockSafe := by
  cases c
  case symlink name symname =>
    exact fun parent l => (smbVfsSymlink_locked name symname parent l).mono fun _ _ _ => trivial
  case listxattr => exact smbVfsListxattr_lockSafe _ _
  case create => exact (smbVfsCreate_locked _ _).lockSafe
  case mkdir => exact (smbVfsMkdir_locked _ _).lockSafe
  case read => exact (smbVfsRead_locked _ _ _).lockSafe
  case write => exact (smbVfsWrite_locked _ _ _ _ _ _).lockSafe
  case setattr => exact (smbVfsSetattr_locked _ _ _).lockSafe
  case getattr => exact (smbVfsGetattr_locked _).lockSafe
  case fsync => exact (smbVfsFsync_locked _).lockSafe
  case rmdir => exact (smbVfsRmdir_locked _).lockSafe
  case unlink => exact (smbVfsUnlink_locked _).lockSafe
  case link => exact (smbVfsLink_locked _ _).lockSafe
  case readlink => exact (smbVfsReadlink_locked _ _ _).lockSafe
  case rename => exact (smbVfsRename_locked _ _ _).lockSafe
  case truncate => exact (smbVfsTruncate_locked _ _ _ _).lockSafe
  case getxattr => exact (smbVfsGetxattr_locked _ _ _ _).lockSafe
  case setxattr => exact (smbVfsSetxattr_locked _ _ _ _ _ _).lockSafe
  case setFadvise => exact (smbVfsSetFadvise_locked _ _ _).lockSafe
  case lock => exact (smbVfsLock_locked _ _ _).lockSafe
  case locksMandatoryArea => exact (smbVfsLocksMandatoryArea_locked _ _ _ _).lockSafe
  case readdir => exact (smbVfsReaddir_locked _ _).lockSafe

end CifsdVfs

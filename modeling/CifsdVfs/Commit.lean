import CifsdVfs.Trace
import CifsdVfs.Vfs.Call

/-!
# Every helper checks before it mutates

A helper's mutation is the one call that changes the file system or its contents
(`Op.mutates`).  Every check that can make a helper fail on its own comes before it: a failed
lookup, an unknown fid, a lock conflict, a failed `get_write_access` or
`locks_verify_truncate`, a missing last component, a trap.  Once a helper has made its
mutation it makes no other, and it returns success or an errno the kernel answered from the
mutation on (`Call.run_commits`).  So every error a helper decides itself is returned before
the file system is touched.

`commitStep` is the monitor.  Before the first mutation it lets every call through; from the
mutation on it collects the errnos the calls answer, and it refuses a second mutation.
`Reported r s` says that `r` is success or one of the collected errnos, and
`Commits.first_mutation` reads the same on the trace of any backend.
-/

namespace CifsdVfs
open Prog

/-! ## The monitor -/

/-- The calls whose answer a helper may hand back after its mutation: the mutations, and
`vfs_fsync_range`. -/
@[reducible] def Op.reports : Op → Bool
  | .vfsCreate .. | .vfsMkdir .. | .vfsWrite .. | .notifyChange .. | .vfsRmdir ..
  | .vfsUnlink .. | .vfsLink .. | .vfsSymlink .. | .vfsRename .. | .vfsTruncate ..
  | .vfsSetxattr .. | .vfsLockFile .. | .vfsFsyncRange .. => true
  | _ => false

/-- The errno a call answers, for the calls that report. -/
@[reducible] def Ev.errno : Ev → Option Int
  | ⟨.vfsCreate .., r⟩ | ⟨.vfsMkdir .., r⟩ | ⟨.notifyChange .., r⟩ | ⟨.vfsRmdir .., r⟩
  | ⟨.vfsUnlink .., r⟩ | ⟨.vfsLink .., r⟩ | ⟨.vfsSymlink .., r⟩ | ⟨.vfsRename .., r⟩
  | ⟨.vfsTruncate .., r⟩ | ⟨.vfsSetxattr .., r⟩ | ⟨.vfsLockFile .., r⟩
  | ⟨.vfsFsyncRange .., r⟩ => some r
  | ⟨.vfsWrite .., r⟩ => some r.1
  | _ => none

/-- `none` before the first mutation; from it on, the errnos answered since.  A second
mutation is refused. -/
def commitStep (s : Option (List Int)) (e : Ev) : Option (Option (List Int)) :=
  match s with
  | none => some (if e.1.mutates then some e.errno.toList else none)
  | some es => if e.1.mutates then none else some (some (es ++ e.errno.toList))

/-- `r` is success, or an errno answered from the mutation on. -/
def Reported (r : Int) : Option (List Int) → Prop
  | none => True
  | some es => r = 0 ∨ r ∈ es

@[simp] theorem reported_none (r : Int) : Reported r none := trivial
@[simp] theorem reported_some (r : Int) (es : List Int) :
    Reported r (some es) ↔ r = 0 ∨ r ∈ es := Iff.rfl

section Steps
variable {o : Op} (r : o.Res)

/-- A call that neither mutates nor reports leaves the monitor as it is. -/
theorem commitStep_quiet (s : Option (List Int)) (h : o.reports = false) :
    commitStep s ⟨o, r⟩ = some s := by
  have hm : o.mutates = false := by cases o <;> first | rfl | cases h
  have he : Ev.errno ⟨o, r⟩ = none := by cases o <;> first | rfl | cases h
  cases s <;> simp [commitStep, hm, he]

theorem commitStep_mutate (h : o.mutates = true) :
    commitStep none ⟨o, r⟩ = some (some (Ev.errno ⟨o, r⟩).toList) := by
  simp only [commitStep, h, if_true]

@[simp] theorem commitStep_vfsFsyncRange (es : List Int) (filp : Filp) (start stop : Int)
    (datasync : Nat) (r : Int) :
    commitStep (some es) ⟨.vfsFsyncRange filp start stop datasync, r⟩ =
      some (some (es ++ [r])) := rfl

end Steps

/-! ## Committing programs -/

/-- Every run of `p` mutates at most once, and `result` of what it returns is success or an
errno answered from the mutation on. -/
def Prog.Commits {α : Type} (p : Prog α) (result : α → Int) : Prop :=
  p.Wp (fun _ _ => True) commitStep none fun r s => Reported (result r) s

/-- After the first mutation, the monitor goes on only through calls that do not mutate, and
collects what they report. -/
theorem foldlM_commitStep_some {t : List Ev} {es : List Int} {s : Option (List Int)}
    (h : t.foldlM commitStep (some es) = some s) :
    (∀ e ∈ t, e.1.mutates = false) ∧ s = some (es ++ t.filterMap Ev.errno) := by
  induction t generalizing es with
  | nil =>
    cases h
    exact ⟨(fun _ h => nomatch h), by rw [List.filterMap_nil, List.append_nil]⟩
  | cons e t ih =>
    cases he : e.1.mutates
    · simp only [List.foldlM_cons, commitStep, he, Bool.false_eq_true, if_false,
        Option.bind_eq_bind, Option.some_bind] at h
      obtain ⟨ht, rfl⟩ := ih h
      refine ⟨List.forall_mem_cons.2 ⟨he, ht⟩, ?_⟩
      cases hr : e.errno <;> simp only [List.filterMap_cons, hr, Option.toList_none,
        Option.toList_some, List.append_nil, List.append_assoc, List.singleton_append]
    · simp only [List.foldlM_cons, commitStep, he, if_true, Option.bind_eq_bind,
        Option.none_bind] at h
      cases h

/-- Before the first mutation, the monitor waits. -/
theorem foldlM_commitStep_none {t : List Ev} (h : ∀ e ∈ t, e.1.mutates = false) :
    t.foldlM commitStep none = some none := by
  induction t with
  | nil => rfl
  | cons e t ih =>
    simp only [List.foldlM_cons, commitStep, h e (List.mem_cons_self _ _), Bool.false_eq_true,
      if_false, Option.bind_eq_bind, Option.some_bind]
    exact ih fun e' he' => h e' (List.mem_cons_of_mem _ he')

/-- On every backend: from the first mutation of a committing helper on there is no other,
and the helper returns success or an errno answered by the mutation or a call after it. -/
theorem Prog.Commits.first_mutation {α : Type} {p : Prog α} {result : α → Int}
    (h : p.Commits result) (b : Backend) {t₁ t₂ : List Ev} {e : Ev}
    (ht : (p.exec b).2 = t₁ ++ e :: t₂) (h₁ : ∀ e' ∈ t₁, e'.1.mutates = false)
    (he : e.1.mutates = true) :
    (∀ e' ∈ t₂, e'.1.mutates = false) ∧
      (result (p.exec b).1 = 0 ∨ result (p.exec b).1 ∈ (e :: t₂).filterMap Ev.errno) := by
  obtain ⟨s, hs, hr⟩ := Wp.exec (fun _ => trivial) h
  rw [ht, List.foldlM_append, foldlM_commitStep_none h₁] at hs
  simp only [Option.bind_eq_bind, Option.some_bind, List.foldlM_cons, commitStep, he, if_true]
    at hs
  obtain ⟨h₂, rfl⟩ := foldlM_commitStep_some hs
  refine ⟨h₂, ?_⟩
  cases hx : e.errno <;> simpa [List.filterMap_cons, hx] using hr

/-! ## The pieces of the helpers

A piece that mutates is stated from before the mutation, for any postcondition that
`Reported` implies; the lock probe mutates nothing and keeps the monitor where it is. -/

section Pieces
variable {A : (o : Op) → o.Res → Prop} {Q : Int → Option (List Int) → Prop}

theorem smbVfsLocksMandatoryArea_commits (filp : Filp) (start stop : Int) (type : LockType)
    {s : Option (List Int)} (h : ∀ r, Q r s) :
    (smbVfsLocksMandatoryArea filp start stop type).Wp A commitStep s Q := by
  simp only [smbVfsLocksMandatoryArea, bind_eq, pure_eq, invoke_bind, ret_bind, wp_call, wp_ite,
    wp_ret, commitStep_quiet, Op.reports, Option.some.injEq, exists_eq_left', h, implies_true,
    and_self]

variable (h : ∀ r s, Reported r s → Q r s)
include h

theorem smbVfsSetattrNotify_commits (dentry : Dentry) (ino : Nat) (attrs : Iattr) (u : Bool) :
    (smbVfsSetattrNotify dentry ino attrs u).Wp A commitStep none Q := by
  simp only [smbVfsSetattrNotify, bind_eq, pure_eq, invoke_bind, call_bind, ret_bind, wp_call,
    wp_ite, wp_bind, wp_ret, commitStep_quiet, commitStep_mutate, Op.reports, Op.mutates, Ev.errno,
    Option.toList_some, Option.some.injEq, exists_eq_left', h, reported_some, List.mem_singleton,
    or_true, implies_true, and_self]

theorem smbVfsSetattrSize_commits (dentry : Dentry) (inode : Inode) (attrs : Iattr) :
    (smbVfsSetattrSize dentry inode attrs).Wp A commitStep none Q := by
  simp only [smbVfsSetattrSize, bind_eq, pure_eq, invoke_bind, call_bind, ret_bind, wp_call, wp_ite,
    wp_ret, commitStep_quiet, Op.reports, Option.some.injEq, exists_eq_left', h, reported_none,
    smbVfsSetattrNotify_commits h, implies_true, and_self]

theorem smbVfsSetattrDentry_commits (dentry : Dentry) (attrs : Iattr) :
    (smbVfsSetattrDentry dentry attrs).Wp A commitStep none Q := by
  simp only [smbVfsSetattrDentry, bind_eq, pure_eq, invoke_bind, ret_bind, wp_call, wp_ite, wp_ret,
    commitStep_quiet, Op.reports, Option.some.injEq, exists_eq_left', h, reported_none,
    smbVfsSetattrSize_commits h, implies_true, and_self]

theorem smbVfsRenameTarget_commits (doldP dold dnewP : Dentry) (newname : CStr)
    (trap : Option Dentry) :
    (smbVfsRenameTarget doldP dold dnewP newname trap).Wp A commitStep none Q := by
  simp only [smbVfsRenameTarget, smbVfsRenameTo, bind_eq, pure_eq, invoke_bind, call_bind, ret_bind,
    wp_call, wp_ite, wp_bind, wp_ret, commitStep_quiet, commitStep_mutate, Op.reports, Op.mutates,
    Ev.errno, Option.toList_some, Option.some.injEq, exists_eq_left', forall_res_lookupOneLen, h,
    reported_none, reported_some, List.mem_singleton, or_true, implies_true, and_self]

theorem smbVfsRenameSource_commits (doldP dold dnewP : Dentry) (newname : CStr)
    (trap : Option Dentry) :
    (smbVfsRenameSource doldP dold dnewP newname trap).Wp A commitStep none Q := by
  simp +contextual only [smbVfsRenameSource, bind_eq, pure_eq, invoke_bind, call_bind, ret_bind,
    wp_call, wp_ite, wp_bind, wp_ret, commitStep_quiet, Op.reports, Option.some.injEq,
    exists_eq_left', forall_res_dNegative, h, reported_none, smbVfsRenameTarget_commits,
    implies_true, and_self]

theorem smbVfsRenameLocked_commits (doldP dnewP : Dentry) (src : RenameSource) (newname : CStr) :
    (smbVfsRenameLocked doldP dnewP src newname).Wp A commitStep none Q := by
  cases src <;>
  simp +contextual only [smbVfsRenameLocked, bind_eq, pure_eq, invoke_bind,
    call_bind, ret_bind, wp_call, wp_bind, wp_ret, commitStep_quiet, Op.reports, Option.some.injEq,
    exists_eq_left', forall_res_lookupOneLen, h, reported_none, smbVfsRenameSource_commits,
    implies_true, and_self]

end Pieces

/-! ## The helpers -/

theorem smbVfsCreate_commits (name : CStr) (mode : Umode) :
    (smbVfsCreate name mode).Commits id := by
  simp only [smbVfsCreate, Prog.Commits, id_eq, invoke, true_and, bind_eq, pure_eq, invoke_bind,
    call_bind, ret_bind, wp_call, wp_ite, wp_bind, wp_ret, commitStep_quiet, commitStep_mutate,
    Op.reports, Op.mutates, Ev.errno, Option.toList_some, Option.some.injEq, exists_eq_left',
    reported_none, reported_some, List.mem_singleton, or_true, implies_true, and_self,
    forall_res_kernPathCreate]

theorem smbVfsMkdir_commits (name : CStr) (mode : Umode) :
    (smbVfsMkdir name mode).Commits id := by
  simp only [smbVfsMkdir, Prog.Commits, id_eq, invoke, true_and, bind_eq, pure_eq, invoke_bind,
    call_bind, ret_bind, wp_call, wp_ite, wp_bind, wp_ret, commitStep_quiet, commitStep_mutate,
    Op.reports, Op.mutates, Ev.errno, Option.toList_some, Option.some.injEq, exists_eq_left',
    reported_none, reported_some, List.mem_singleton, or_true, implies_true, and_self,
    forall_res_kernPathCreate]

theorem smbVfsRead_commits (fid count : Nat) (pos : Int) :
    (smbVfsRead fid count pos).Commits (·.1) := by
  simp only [smbVfsRead, Prog.Commits, id_eq, invoke, true_and, bind_eq, pure_eq, invoke_bind,
    call_bind, ret_bind, wp_call, wp_ite, wp_bind, wp_ret, commitStep_quiet, commitStep_mutate,
    Op.reports, Op.mutates, Ev.errno, Option.toList_some, Option.some.injEq, exists_eq_left',
    reported_none, reported_some, List.mem_singleton, or_true, implies_true, and_self,
    forall_res_getIdFromFidtable, forall_res_vmalloc, smbVfsLocksMandatoryArea_commits]

theorem smbVfsWrite_commits (oplocksEnable : Bool) (fid buf count : Nat) (pos : Int) (sync : Bool) :
    (smbVfsWrite oplocksEnable fid buf count pos sync).Commits (·.1) := by
  simp only [smbVfsWrite, Prog.Commits, id_eq, invoke, true_and, bind_eq, pure_eq, invoke_bind,
    call_bind, ret_bind, wp_call, wp_ite, wp_bind, wp_ret, commitStep_quiet, commitStep_mutate,
    Op.reports, Op.mutates, Ev.errno, Option.toList_some, Option.some.injEq, exists_eq_left',
    reported_none, reported_some, List.mem_singleton, or_true, implies_true, and_self,
    forall_res_getIdFromFidtable, smbVfsLocksMandatoryArea_commits, commitStep_vfsFsyncRange,
    List.singleton_append, List.mem_cons, true_or]

theorem smbVfsGetattr_commits (fid : Nat) :
    (smbVfsGetattr fid).Commits id := by
  simp only [smbVfsGetattr, Prog.Commits, id_eq, invoke, true_and, bind_eq, pure_eq, invoke_bind,
    call_bind, ret_bind, wp_call, wp_ite, wp_bind, wp_ret, commitStep_quiet, commitStep_mutate,
    Op.reports, Op.mutates, Ev.errno, Option.toList_some, Option.some.injEq, exists_eq_left',
    reported_none, reported_some, List.mem_singleton, or_true, implies_true, and_self,
    forall_res_getIdFromFidtable]

theorem smbVfsFsync_commits (fid : Nat) :
    (smbVfsFsync fid).Commits id := by
  simp only [smbVfsFsync, Prog.Commits, id_eq, invoke, true_and, bind_eq, pure_eq, invoke_bind,
    call_bind, ret_bind, wp_call, wp_ite, wp_bind, wp_ret, commitStep_quiet, commitStep_mutate,
    Op.reports, Op.mutates, Ev.errno, Option.toList_some, Option.some.injEq, exists_eq_left',
    reported_none, reported_some, List.mem_singleton, or_true, implies_true, and_self,
    forall_res_getIdFromFidtable]

theorem smbVfsRmdir_commits (name : CStr) :
    (smbVfsRmdir name).Commits id := by
  simp only [smbVfsRmdir, Prog.Commits, id_eq, invoke, true_and, bind_eq, pure_eq, invoke_bind,
    call_bind, ret_bind, wp_call, wp_ite, wp_bind, wp_ret, commitStep_quiet, commitStep_mutate,
    Op.reports, Op.mutates, Ev.errno, Option.toList_some, Option.some.injEq, exists_eq_left',
    reported_none, reported_some, List.mem_singleton, or_true, implies_true, and_self,
    forall_res_kernPath]

theorem smbVfsUnlink_commits (name : CStr) :
    (smbVfsUnlink name).Commits id := by
  simp only [smbVfsUnlink, Prog.Commits, id_eq, invoke, true_and, bind_eq, pure_eq, invoke_bind,
    call_bind, ret_bind, wp_call, wp_ite, wp_bind, wp_ret, commitStep_quiet, commitStep_mutate,
    Op.reports, Op.mutates, Ev.errno, Option.toList_some, Option.some.injEq, exists_eq_left',
    reported_none, reported_some, List.mem_singleton, or_true, implies_true, and_self,
    forall_res_kernPath]

theorem smbVfsLink_commits (oldname newname : CStr) :
    (smbVfsLink oldname newname).Commits id := by
  simp only [smbVfsLink, Prog.Commits, id_eq, invoke, true_and, bind_eq, pure_eq, invoke_bind,
    call_bind, ret_bind, wp_call, wp_ite, wp_bind, wp_ret, commitStep_quiet, commitStep_mutate,
    Op.reports, Op.mutates, Ev.errno, Option.toList_some, Option.some.injEq, exists_eq_left',
    reported_none, reported_some, List.mem_singleton, or_true, implies_true, and_self,
    forall_res_kernPath, forall_res_kernPathCreate]

theorem smbVfsSymlink_commits (name symname : CStr) :
    (smbVfsSymlink name symname).Commits id := by
  simp only [smbVfsSymlink, Prog.Commits, id_eq, invoke, true_and, bind_eq, pure_eq, invoke_bind,
    call_bind, ret_bind, wp_call, wp_ite, wp_bind, wp_ret, commitStep_quiet, commitStep_mutate,
    Op.reports, Op.mutates, Ev.errno, Option.toList_some, Option.some.injEq, exists_eq_left',
    reported_none, reported_some, List.mem_singleton, or_true, implies_true, and_self,
    forall_res_kernPathCreate]

theorem smbVfsReadlink_commits (path : Option Path) (buf : Nat) (lenp : Int) :
    (smbVfsReadlink path buf lenp).Commits id := by
  cases path <;>
  simp only [smbVfsReadlink, Prog.Commits, id_eq, invoke, true_and, bind_eq,
    pure_eq, invoke_bind, call_bind, ret_bind, wp_call, wp_ite, wp_bind, wp_ret, commitStep_quiet,
    commitStep_mutate, Op.reports, Op.mutates, Ev.errno, Option.toList_some, Option.some.injEq,
    exists_eq_left', reported_none, reported_some, List.mem_singleton, or_true, implies_true,
    and_self]

theorem smbVfsTruncate_commits (oplocksEnable : Bool) (name : Option CStr) (fid : Nat)
    (size : Int) :
    (smbVfsTruncate oplocksEnable name fid size).Commits id := by
  cases name <;>
  simp only [smbVfsTruncate, Prog.Commits, id_eq, invoke, true_and, bind_eq,
    pure_eq, invoke_bind, call_bind, ret_bind, wp_call, wp_ite, wp_bind, wp_ret, commitStep_quiet,
    commitStep_mutate, Op.reports, Op.mutates, Ev.errno, Option.toList_some, Option.some.injEq,
    exists_eq_left', reported_none, reported_some, List.mem_singleton, or_true, implies_true,
    and_self, forall_res_kernPath, forall_res_getIdFromFidtable, smbVfsLocksMandatoryArea_commits]

theorem smbVfsListxattr_commits (dentry : Dentry) (size : Int) :
    (smbVfsListxattr dentry size).Commits (·.1) := by
  simp only [smbVfsListxattr, Prog.Commits, id_eq, invoke, true_and, bind_eq, pure_eq, invoke_bind,
    call_bind, ret_bind, wp_call, wp_ite, wp_bind, wp_ret, commitStep_quiet, commitStep_mutate,
    Op.reports, Op.mutates, Ev.errno, Option.toList_some, Option.some.injEq, exists_eq_left',
    reported_none, reported_some, List.mem_singleton, or_true, implies_true, and_self,
    forall_res_vmalloc]

theorem smbVfsGetxattr_commits (dentry : Dentry) (xattrName : CStr) (xattrBuf bufLen : Nat) :
    (smbVfsGetxattr dentry xattrName xattrBuf bufLen).Commits id := by
  simp only [smbVfsGetxattr, Prog.Commits, id_eq, invoke, true_and, bind_eq, pure_eq, invoke_bind,
    call_bind, ret_bind, wp_call, wp_ite, wp_bind, wp_ret, commitStep_quiet, commitStep_mutate,
    Op.reports, Op.mutates, Ev.errno, Option.toList_some, Option.some.injEq, exists_eq_left',
    reported_none, reported_some, List.mem_singleton, or_true, implies_true, and_self]

theorem smbVfsSetxattr_commits (filename : Option CStr) (fpath : Path) (name : CStr)
    (value size : Nat) (flags : Int) :
    (smbVfsSetxattr filename fpath name value size flags).Commits id := by
  cases filename <;>
  simp only [smbVfsSetxattr, Prog.Commits, id_eq, invoke, true_and, bind_eq,
    pure_eq, invoke_bind, call_bind, ret_bind, wp_call, wp_ite, wp_bind, wp_ret, commitStep_quiet,
    commitStep_mutate, Op.reports, Op.mutates, Ev.errno, Option.toList_some, Option.some.injEq,
    exists_eq_left', reported_none, reported_some, List.mem_singleton, or_true, implies_true,
    and_self, forall_res_kernPath]

theorem smbVfsLock_commits (filp : Filp) (cmd : Int) (flock : FileLock) :
    (smbVfsLock filp cmd flock).Commits id := by
  simp only [smbVfsLock, Prog.Commits, id_eq, invoke, true_and, bind_eq, pure_eq, invoke_bind,
    call_bind, ret_bind, wp_call, wp_ite, wp_bind, wp_ret, commitStep_quiet, commitStep_mutate,
    Op.reports, Op.mutates, Ev.errno, Option.toList_some, Option.some.injEq, exists_eq_left',
    reported_none, reported_some, List.mem_singleton, or_true, implies_true, and_self]

theorem smbVfsReaddir_commits (file : Filp) (ctx : Nat) :
    (smbVfsReaddir file ctx).Commits id := by
  simp only [smbVfsReaddir, Prog.Commits, id_eq, invoke, true_and, bind_eq, pure_eq, invoke_bind,
    call_bind, ret_bind, wp_call, wp_ite, wp_bind, wp_ret, commitStep_quiet, commitStep_mutate,
    Op.reports, Op.mutates, Ev.errno, Option.toList_some, Option.some.injEq, exists_eq_left',
    reported_none, reported_some, List.mem_singleton, or_true, implies_true, and_self]

theorem smbVfsSetattr_commits (name : Option CStr) (fid : Nat) (attrs : Iattr) :
    (smbVfsSetattr name fid attrs).Commits id := by
  cases name <;>
  simp only [smbVfsSetattr, Prog.Commits, id_eq, bind_eq, pure_eq, invoke_bind,
    call_bind, ret_bind, wp_call, wp_bind, wp_ret, commitStep_quiet, Op.reports, Option.some.injEq,
    exists_eq_left', forall_res_kernPath, forall_res_getIdFromFidtable, reported_none,
    smbVfsSetattrDentry_commits, true_implies, forall_const, imp_self, implies_true, and_self]

theorem smbVfsRename_commits (absOldname : Option CStr) (absNewname : CStr) (oldfid : Nat) :
    (smbVfsRename absOldname absNewname oldfid).Commits id := by
  unfold smbVfsRename
  cases absOldname with
  | none =>
    cases lastComponent absNewname <;>
    simp only [Prog.Commits, id_eq, bind_eq, pure_eq, invoke_bind, call_bind, ret_bind, wp_call,
      wp_bind, wp_ret, commitStep_quiet, Op.reports, Option.some.injEq, exists_eq_left',
      forall_res_kernPath, forall_res_getIdFromFidtable, reported_none, smbVfsRenameLocked_commits,
      true_implies, forall_const, imp_self, implies_true, and_self]
  | some absOldname =>
    dsimp only
    cases lastComponent absOldname <;> cases lastComponent absNewname <;>
    simp only [Prog.Commits, id_eq, bind_eq, pure_eq, invoke_bind, call_bind, ret_bind, wp_call,
      wp_bind, wp_ret, commitStep_quiet, Op.reports, Option.some.injEq, exists_eq_left',
      forall_res_kernPath, reported_none, smbVfsRenameLocked_commits, true_implies, forall_const,
      imp_self, implies_true, and_self]

/-- `smb_vfs_set_fadvise` changes only flags of the open file, and mutates nothing. -/
theorem smbVfsSetFadvise_commits (le : CreateOptions) (filp : Filp) (option : BitVec 32) :
    (smbVfsSetFadvise le filp option).Commits fun _ => 0 := by
  simp only [smbVfsSetFadvise, Prog.Commits, bind_eq, pure_eq, invoke, call_bind, ret_bind, wp_call,
    wp_ite, wp_ret, commitStep_quiet, Op.reports, Option.some.injEq, exists_eq_left',
    forall_res_fMapping, reported_none, implies_true, and_self]

/-! ## Every call -/

/-- The value a call returns in C; `smb_vfs_set_fadvise` returns nothing, read here as `0`. -/
def Call.result : (c : Call) → c.Ret → Int
  | .read .., r => r.1
  | .write .., r => r.1
  | .listxattr .., r => r.1
  | .setFadvise .., _ => 0
  | .create .., r | .mkdir .., r | .setattr .., r | .getattr .., r | .fsync .., r
  | .rmdir .., r | .unlink .., r | .link .., r | .symlink .., r | .readlink .., r
  | .rename .., r | .truncate .., r | .getxattr .., r | .setxattr .., r | .lock .., r
  | .locksMandatoryArea .., r | .readdir .., r => r

/-- Every call checks before it mutates: it makes at most one mutation, and from it on it
returns success or an errno the kernel answered, never an error of its own.  Every error a
helper decides itself (failed lookup, unknown fid, lock conflict, failed write-access or
truncate check, missing last component, trap) is therefore returned before any mutation. -/
theorem Call.run_commits (oplocksEnable : Bool) (le : CreateOptions) (c : Call) :
    (c.run oplocksEnable le).Commits c.result := by
  cases c
  case create => exact smbVfsCreate_commits _ _
  case mkdir => exact smbVfsMkdir_commits _ _
  case read => exact smbVfsRead_commits _ _ _
  case write => exact smbVfsWrite_commits _ _ _ _ _ _
  case setattr => exact smbVfsSetattr_commits _ _ _
  case getattr => exact smbVfsGetattr_commits _
  case fsync => exact smbVfsFsync_commits _
  case rmdir => exact smbVfsRmdir_commits _
  case unlink => exact smbVfsUnlink_commits _
  case link => exact smbVfsLink_commits _ _
  case symlink => exact smbVfsSymlink_commits _ _
  case readlink => exact smbVfsReadlink_commits _ _ _
  case rename => exact smbVfsRename_commits _ _ _
  case truncate => exact smbVfsTruncate_commits _ _ _ _
  case listxattr => exact smbVfsListxattr_commits _ _
  case getxattr => exact smbVfsGetxattr_commits _ _ _ _
  case setxattr => exact smbVfsSetxattr_commits _ _ _ _ _ _
  case setFadvise => exact smbVfsSetFadvise_commits _ _ _
  case lock => exact smbVfsLock_commits _ _ _
  case locksMandatoryArea =>
    exact smbVfsLocksMandatoryArea_commits _ _ _ _ fun _ => trivial
  case readdir => exact smbVfsReaddir_commits _ _

end CifsdVfs

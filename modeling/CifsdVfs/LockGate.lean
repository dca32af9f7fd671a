import CifsdVfs.Trace
import CifsdVfs.Vfs.File

/-!
# The byte-range lock gate and the break of level II oplocks

`smb_vfs_read`, `smb_vfs_write` and `smb_vfs_truncate` on an open file probe the file's POSIX
locks with `smb_vfs_locks_mandatory_area` before their backend call, and give up with `-EAGAIN`
when the probe meets a conflicting lock of another owner.  With `oplocks_enable` set,
`smb_vfs_write` and `smb_vfs_truncate` on an open file break the level II oplocks of other
clients, under `ofile_list_lock`, before their backend call.

The gate is not the same on every path.  `smb_vfs_truncate` on an open file probes only when
`oplocks_enable` is clear, and breaks the oplocks instead of probing when it is set.
`smb_vfs_setattr` neither probes nor breaks: a size change there waits only for
`get_write_access` and the kernel's `locks_verify_truncate`, which reads the locks only on a
mandatory-locking mount.  `LockGate` collects what holds, and the kernel `lockedKernel` shows
the two paths the probe does not guard.

A conflict is stated over the locks themselves (`Conflicting`), and the order of the calls by
the monitor `leaseStep`.  The probe's range is computed in `loff_t`, so the statements about it
assume that its end does not overflow.
-/

namespace CifsdVfs
open Prog

/-! ## Conflicting locks -/

/-- A lock held by an owner other than `owner` shares a byte with `[start, stop]` and conflicts
with an access of type `type`: every lock conflicts with a write or a size change, a write lock
with a read. -/
def Conflicting (locks : List FileLock) (owner : Nat) (start stop : Int) (type : LockType) :
    Prop :=
  ∃ l ∈ locks, l.flOwner ≠ owner ∧ max start l.flStart ≤ min stop l.flEnd ∧
    (type = .wrlck ∨ l.flType = .wrlck)

instance (locks : List FileLock) (owner : Nat) (start stop : Int) (type : LockType) :
    Decidable (Conflicting locks owner start stop type) := by
  unfold Conflicting; infer_instance

section Conflicting
variable {locks : List FileLock} {owner : Nat} {start stop : Int} {type : LockType}

/-- A conflicting lock is one the kernel's `posix_locks_conflict` finds. -/
theorem posixLockFile_of_conflicting (h : Conflicting locks owner start stop type) :
    posixLockFile locks ⟨owner, start, stop, type⟩ = -EAGAIN := by
  obtain ⟨l, hl, howner, hmeet, htype⟩ := h
  rw [max_le_iff, le_min_iff, le_min_iff] at hmeet
  refine if_pos (List.any_eq_true.2 ⟨l, hl, ?_⟩)
  simp [posixLocksConflict, Ne.symm howner, hmeet.2.1, hmeet.1.2, htype.symm]

/-- The bytes of a conflict are not empty. -/
theorem Conflicting.le (h : Conflicting locks owner start stop type) : start ≤ stop := by
  obtain ⟨l, -, -, hmeet, -⟩ := h
  exact (le_max_left _ _).trans (hmeet.trans (min_le_left _ _))

theorem Conflicting.ne_nil (h : Conflicting locks owner start stop type) : locks ≠ [] := by
  rintro rfl; simp [Conflicting] at h

end Conflicting

/-! ## The calls the gate stands before -/

/-- The calls a request stopped at the gate must not reach: the backend calls that read or
change a file's bytes or size, and the break of other clients' oplocks. -/
@[reducible] def Op.pastGate : Op → Bool
  | .vfsRead .. | .vfsWrite .. | .vfsTruncate .. | .notifyChange .. | .smbBreakIIOplock _ => true
  | _ => false

/-- The lock probe `posix_lock_file`. -/
@[reducible] def Op.isProbe : Op → Bool
  | .posixLockFile .. => true
  | _ => false

/-- The probe or the break of oplocks. -/
@[reducible] def Op.gateCall : Op → Bool
  | .posixLockFile .. | .smbBreakIIOplock _ => true
  | _ => false

/-! ## The probe -/

section Probe
variable (b : Backend) (filp : Filp) (start stop : Int) (type : LockType)

/-- The probe's verdict is the kernel's over all the locks of the file: the shortcut taken when
the file has no POSIX lock gives the same answer. -/
theorem smbVfsLocksMandatoryArea_verdict :
    ((smbVfsLocksMandatoryArea filp start stop type).exec b).1 =
      posixLockFile (b.fileInode filp).flcPosix ⟨filp.id, start, stop, type⟩ := by
  simp only [smbVfsLocksMandatoryArea, bind_eq, pure_eq, invoke_bind, call_bind, ret_bind,
    exec_call, exec_ret, Backend.answer_fileInode, Backend.answer_posixLockFile]
  split_ifs with h <;> simp [posixLockFile, h]

/-- The probe that meets a conflicting lock fails with `-EAGAIN`. -/
theorem smbVfsLocksMandatoryArea_conflict
    (h : Conflicting (b.fileInode filp).flcPosix filp.id start stop type) :
    ((smbVfsLocksMandatoryArea filp start stop type).exec b).1 = -EAGAIN := by
  rw [smbVfsLocksMandatoryArea_verdict, posixLockFile_of_conflicting h]

/-- The probe calls neither the backend nor the oplock break. -/
theorem smbVfsLocksMandatoryArea_pastGate :
    ∀ e ∈ ((smbVfsLocksMandatoryArea filp start stop type).exec b).2, e.1.pastGate = false := by
  simp only [smbVfsLocksMandatoryArea, bind_eq, pure_eq, invoke_bind, exec_call]
  split_ifs <;> simp

end Probe

/-! ## A conflict stops the call -/

section Conflict
variable (b : Backend) {fid : Nat} {fp : CifssrvFile}
  (hfp : b.answer (.getIdFromFidtable fid) = some fp)
include hfp

/-- A read whose bytes meet a write lock of another owner fails with `-EAGAIN` (a directory is
refused first, with `-EISDIR`) and reaches no backend call. -/
theorem smbVfsRead_conflict {count : Nat} {pos : Int} (hend : LoffT.Valid (pos + count - 1))
    (hc : Conflicting (b.fileInode fp.filp).flcPosix fp.filp.id pos (pos + count - 1) .rdlck) :
    ((smbVfsRead fid count pos).exec b).1.1 =
        (if S_ISDIR (b.answer (.dInode fp.filp.fPath.dentry)).iMode then -EISDIR else -EAGAIN) ∧
      ∀ e ∈ ((smbVfsRead fid count pos).exec b).2, e.1.pastGate = false := by
  have hcount : count ≠ 0 := by rintro rfl; have := hc.le; omega
  rw [← loffT_of_valid hend] at hc
  split_ifs with hdir
  · simp [smbVfsRead, hcount, hfp, hdir]
  · simp [smbVfsRead, hcount, hfp, hdir, exec_bind, smbVfsLocksMandatoryArea_conflict b _ _ _ _ hc]
    exact smbVfsLocksMandatoryArea_pastGate b _ _ _ _

/-- A write whose bytes meet a lock of another owner fails with `-EAGAIN` before it breaks any
oplock, and reaches no backend call. -/
theorem smbVfsWrite_conflict (oplocksEnable : Bool) {buf count : Nat} {pos : Int} (sync : Bool)
    (hend : LoffT.Valid (pos + count - 1))
    (hc : Conflicting (b.fileInode fp.filp).flcPosix fp.filp.id pos (pos + count - 1) .wrlck) :
    ((smbVfsWrite oplocksEnable fid buf count pos sync).exec b).1.1 = -EAGAIN ∧
      ∀ e ∈ ((smbVfsWrite oplocksEnable fid buf count pos sync).exec b).2,
        e.1.pastGate = false := by
  rw [← loffT_of_valid hend] at hc
  simp [smbVfsWrite, hfp, exec_bind, smbVfsLocksMandatoryArea_conflict b _ _ _ _ hc]
  exact smbVfsLocksMandatoryArea_pastGate b _ _ _ _

/-- With `oplocks_enable` clear, a truncation of an open file whose changed bytes meet a lock of
another owner fails with `-EAGAIN` and does not reach `vfs_truncate`. -/
theorem smbVfsTruncate_conflict {size : Int} (hsize : LoffT.Valid size)
    (hisize : LoffT.Valid (b.fileInode fp.filp).iSize)
    (hc : Conflicting (b.fileInode fp.filp).flcPosix fp.filp.id
      (min size (b.fileInode fp.filp).iSize) (max size (b.fileInode fp.filp).iSize - 1) .wrlck) :
    ((smbVfsTruncate false none fid size).exec b).1 = -EAGAIN ∧
      ∀ e ∈ ((smbVfsTruncate false none fid size).exec b).2, e.1.pastGate = false := by
  have hne := hc.le
  unfold LoffT.Valid at hsize hisize
  by_cases hlt : size < (b.fileInode fp.filp).iSize
  · rw [min_eq_left hlt.le, max_eq_right hlt.le,
      ← loffT_of_valid (x := (b.fileInode fp.filp).iSize - 1) ⟨by omega, by omega⟩] at hc
    simp [smbVfsTruncate, hfp, hlt, exec_bind, smbVfsLocksMandatoryArea_conflict b _ _ _ _ hc]
    exact smbVfsLocksMandatoryArea_pastGate b _ _ _ _
  · rw [min_eq_right (not_lt.1 hlt), max_eq_left (not_lt.1 hlt),
      ← loffT_of_valid (x := size - 1) ⟨by omega, by omega⟩] at hc
    simp [smbVfsTruncate, hfp, hlt, exec_bind, smbVfsLocksMandatoryArea_conflict b _ _ _ _ hc]
    exact smbVfsLocksMandatoryArea_pastGate b _ _ _ _

end Conflict

/-! ## Breaking level II oplocks before the backend -/

/-- How far a run has got in breaking the level II oplocks of other clients. -/
inductive Lease where
  /-- Nothing done yet. -/
  | idle
  /-- `ofile_list_lock` is held. -/
  | locked
  /-- `smb_breakII_oplock` has run and the lock is still held. -/
  | breaking
  /-- The break is over and the lock given back. -/
  | broken
  deriving DecidableEq, Repr

/-- The calls the lease monitor orders: `ofile_list_lock`, the break, and the backend calls that
write a file or change its size. -/
@[reducible] def Op.leaseCall : Op → Bool
  | .mutexLock .ofileListLock | .mutexUnlock .ofileListLock | .smbBreakIIOplock _
  | .vfsWrite .. | .vfsTruncate .. => true
  | .notifyChange _ attrs => attrs.iaValid &&& ATTR_SIZE != 0
  | _ => false

/-- The lease monitor: `ofile_list_lock` is taken, `smb_breakII_oplock` runs under it, the lock
is given back, and only then may the file be written or its size changed.  It refuses every
other order of these calls and lets every other call through. -/
def leaseStep (s : Lease) (e : Ev) : Option Lease :=
  match s, e.1 with
  | .idle, .mutexLock .ofileListLock => some .locked
  | .locked, .smbBreakIIOplock _ => some .breaking
  | .breaking, .mutexUnlock .ofileListLock => some .broken
  | .broken, .vfsWrite .. | .broken, .vfsTruncate .. | .broken, .notifyChange .. => some .broken
  | s, o => if o.leaseCall then none else some s

/-- Every write and size change of the trace `t` comes after a break of level II oplocks made
under `ofile_list_lock`. -/
def BreaksFirst (t : List Ev) : Prop := (t.foldlM leaseStep .idle).isSome

instance (t : List Ev) : Decidable (BreaksFirst t) := inferInstanceAs (Decidable (_ = true))

section LeaseStep
variable (s : Lease) {α : Type}

theorem leaseStep_untouched {o : Op} (h : o.leaseCall = false) (r : o.Res) :
    leaseStep s ⟨o, r⟩ = some s := by
  unfold leaseStep; split <;> simp_all

@[simp] theorem leaseStep_lock (r : Unit) :
    leaseStep .idle ⟨.mutexLock .ofileListLock, r⟩ = some .locked := rfl
@[simp] theorem leaseStep_break (fp : CifssrvFile) (r : Unit) :
    leaseStep .locked ⟨.smbBreakIIOplock fp, r⟩ = some .breaking := rfl
@[simp] theorem leaseStep_unlock (r : Unit) :
    leaseStep .breaking ⟨.mutexUnlock .ofileListLock, r⟩ = some .broken := rfl
@[simp] theorem leaseStep_vfsWrite (filp : Filp) (buf count : Nat) (pos : Int) (r : Int × Int) :
    leaseStep .broken ⟨.vfsWrite filp buf count pos, r⟩ = some .broken := rfl
@[simp] theorem leaseStep_vfsTruncate (path : Path) (size r : Int) :
    leaseStep .broken ⟨.vfsTruncate path size, r⟩ = some .broken := rfl

/-- A program the lease monitor accepts from `idle` leaves a trace it accepts. -/
theorem Prog.Wp.breaksFirst {p : Prog α}
    (h : p.Wp (fun _ _ => True) leaseStep .idle fun _ _ => True) (b : Backend) :
    BreaksFirst (p.exec b).2 := by
  obtain ⟨s, hs, -⟩ := Wp.exec (b := b) (fun _ => trivial) h
  simp [BreaksFirst, hs]

theorem smbVfsLocksMandatoryArea_lease {A : (o : Op) → o.Res → Prop} {Q : Int → Lease → Prop}
    (filp : Filp) (start stop : Int) (type : LockType) (h : ∀ r, Q r s) :
    (smbVfsLocksMandatoryArea filp start stop type).Wp A leaseStep s Q := by
  simp only [smbVfsLocksMandatoryArea, bind_eq, pure_eq, invoke_bind, call_bind, ret_bind,
    wp_call, wp_ite, wp_ret, leaseStep_untouched, Op.leaseCall, Option.some.injEq, exists_eq_left', h, implies_true,
    and_self]

end LeaseStep

/-- With `oplocks_enable` set, a write reaches `vfs_write` only after the level II oplocks of
other clients have been broken under `ofile_list_lock`. -/
theorem smbVfsWrite_lease (fid buf count : Nat) (pos : Int) (sync : Bool) :
    (smbVfsWrite true fid buf count pos sync).Wp (fun _ _ => True) leaseStep .idle
      fun _ _ => True := by
  simp only [smbVfsWrite, bind_eq, pure_eq, invoke_bind, call_bind, ret_bind, wp_call, wp_ite,
    wp_bind, wp_ret, leaseStep_untouched, Op.leaseCall, leaseStep_lock, leaseStep_break,
    leaseStep_unlock, leaseStep_vfsWrite, smbVfsLocksMandatoryArea_lease, Option.some.injEq,
    exists_eq_left', forall_res_getIdFromFidtable, Prod.forall, implies_true, and_self,
    forall_const, not_true_eq_false, false_implies]

/-- With `oplocks_enable` set, a truncation of an open file reaches `vfs_truncate` only after the
level II oplocks of other clients have been broken under `ofile_list_lock`. -/
theorem smbVfsTruncate_lease (fid : Nat) (size : Int) :
    (smbVfsTruncate true none fid size).Wp (fun _ _ => True) leaseStep .idle fun _ _ => True := by
  simp only [smbVfsTruncate, invoke, bind_eq, pure_eq, call_bind, ret_bind, wp_call, wp_ite,
    wp_bind, wp_ret, leaseStep_untouched, Op.leaseCall, leaseStep_lock, leaseStep_break,
    leaseStep_unlock, leaseStep_vfsTruncate, Option.some.injEq, exists_eq_left',
    forall_res_getIdFromFidtable, implies_true, and_self, forall_const, not_true_eq_false,
    false_implies]

/-! ## Paths without a probe

The monitor `avoid bad` refuses the calls `bad` picks out; a program it accepts never makes
them. -/

/-- Refuse the calls `bad` picks out, let every other through. -/
def avoid (bad : Op → Bool) (_ : Unit) (e : Ev) : Option Unit := if bad e.1 then none else some ()

section Avoid
variable {bad : Op → Bool}

theorem avoid_ok {o : Op} (h : bad o = false) (s : Unit) (r : o.Res) :
    avoid bad s ⟨o, r⟩ = some s := by
  simp [avoid, h]

theorem avoid_foldlM {t : List Ev} (h : (t.foldlM (avoid bad) ()).isSome) :
    ∀ e ∈ t, bad e.1 = false := by
  induction t with
  | nil => simp
  | cons e t ih => cases hb : bad e.1 <;> simp_all [avoid]

theorem Prog.Wp.avoid_exec {α : Type} {p : Prog α}
    (h : p.Wp (fun _ _ => True) (avoid bad) () fun _ _ => True) (b : Backend) :
    ∀ e ∈ (p.exec b).2, bad e.1 = false := by
  obtain ⟨s, hs, -⟩ := Wp.exec (b := b) (fun _ => trivial) h
  exact avoid_foldlM (by simp [hs])

end Avoid

/-- With `oplocks_enable` set, `smb_vfs_truncate` never probes the lock table. -/
theorem smbVfsTruncate_unprobed (name : Option CStr) (fid : Nat) (size : Int) :
    (smbVfsTruncate true name fid size).Wp (fun _ _ => True) (avoid Op.isProbe) ()
      fun _ _ => True := by
  cases name <;>
  simp only [smbVfsTruncate, invoke, bind_eq, pure_eq, call_bind, ret_bind, wp_call, wp_ite,
    wp_bind, wp_ret, avoid_ok, Op.isProbe, Option.some.injEq, exists_eq_left', exists_const, true_and,
    forall_res_getIdFromFidtable, forall_res_kernPath, implies_true, and_self, forall_const,
    not_true_eq_false, false_implies]

section Setattr
variable {A : (o : Op) → o.Res → Prop} {Q : Int → Unit → Prop} {s : Unit} (h : ∀ r, Q r s)
include h

theorem smbVfsSetattrNotify_ungated (dentry : Dentry) (ino : Nat) (attrs : Iattr)
    (updateSize : Bool) :
    (smbVfsSetattrNotify dentry ino attrs updateSize).Wp A (avoid Op.gateCall) s Q := by
  simp only [smbVfsSetattrNotify, invoke, bind_eq, pure_eq, call_bind, ret_bind, wp_call, wp_ite,
    wp_bind, wp_ret, avoid_ok, Op.gateCall, Option.some.injEq, exists_eq_left', exists_const, true_and, h, implies_true,
    and_self]

theorem smbVfsSetattrSize_ungated (dentry : Dentry) (inode : Inode) (attrs : Iattr) :
    (smbVfsSetattrSize dentry inode attrs).Wp A (avoid Op.gateCall) s Q := by
  simp only [smbVfsSetattrSize, invoke, bind_eq, pure_eq, call_bind, ret_bind, wp_call, wp_ite,
    wp_ret, avoid_ok, Op.gateCall, Option.some.injEq, exists_eq_left', exists_const, true_and, h,
    smbVfsSetattrNotify_ungated, implies_true, and_self]

theorem smbVfsSetattrDentry_ungated (dentry : Dentry) (attrs : Iattr) :
    (smbVfsSetattrDentry dentry attrs).Wp A (avoid Op.gateCall) s Q := by
  simp only [smbVfsSetattrDentry, invoke, bind_eq, pure_eq, call_bind, ret_bind, wp_call, wp_ite,
    wp_ret, avoid_ok, Op.gateCall, Option.some.injEq, exists_eq_left', exists_const, true_and, h,
    smbVfsSetattrSize_ungated, implies_true, and_self]

end Setattr

/-- `smb_vfs_setattr` never probes the lock table and never breaks an oplock. -/
theorem smbVfsSetattr_ungated (name : Option CStr) (fid : Nat) (attrs : Iattr) :
    (smbVfsSetattr name fid attrs).Wp (fun _ _ => True) (avoid Op.gateCall) ()
      fun _ _ => True := by
  cases name <;>
  simp only [smbVfsSetattr, invoke, bind_eq, pure_eq, call_bind, ret_bind, wp_call, wp_bind,
    wp_ret, avoid_ok, Op.gateCall, Option.some.injEq, exists_eq_left', exists_const, true_and,
    forall_res_getIdFromFidtable, forall_res_kernPath, smbVfsSetattrDentry_ungated, implies_true,
    and_self]

/-! ## A file with a locked byte -/

/-- A regular file of ten bytes whose first byte another owner (2) holds under a read lock. -/
def lockedFile : Inode :=
  { ino := 7, iMode := S_IFREG ||| 0o644#16, iUid := 0, iGid := 0, iSize := 10, iNlink := 1,
    flcPosix := [⟨2, 0, 0, .rdlck⟩] }

/-- The open file behind handle 0. -/
def lockedFilp : Filp := ⟨1, ⟨0, 5⟩⟩

/-- A kernel on which handle 0 is that file and every other call succeeds.
`locks_verify_truncate` answers 0 as it does on a mount without mandatory locking. -/
def lockedKernel : Backend where
  fileInode _ := lockedFile
  outcome
    | .getIdFromFidtable _ => some ⟨lockedFilp⟩
    | .dInode _ => lockedFile
    | _ => default

/-! ## The gate as a whole -/

/-- What the lock gate guarantees on the kernel `b` for the open file `fp` behind the handle
`fid`, with the module parameter `oplocks_enable`.  The probe guards reads, writes and, when
`oplocks_enable` is clear, truncations; with it set, writes and truncations break the oplocks of
other clients first, and truncations no longer probe.  `smb_vfs_setattr` is not guarded. -/
structure LockGate (oplocksEnable : Bool) (b : Backend) (fid : Nat) (fp : CifssrvFile) : Prop where
  /-- A read meeting a write lock of another owner fails with `-EAGAIN`, or first with `-EISDIR`
  on a directory, and reaches no backend call. -/
  read : ∀ (count : Nat) (pos : Int), LoffT.Valid (pos + count - 1) →
    Conflicting (b.fileInode fp.filp).flcPosix fp.filp.id pos (pos + count - 1) .rdlck →
    ((smbVfsRead fid count pos).exec b).1.1 =
        (if S_ISDIR (b.answer (.dInode fp.filp.fPath.dentry)).iMode then -EISDIR else -EAGAIN) ∧
      ∀ e ∈ ((smbVfsRead fid count pos).exec b).2, e.1.pastGate = false
  /-- A write meeting a lock of another owner fails with `-EAGAIN`, and reaches neither the
  backend nor the oplock break. -/
  write : ∀ (buf count : Nat) (pos : Int) (sync : Bool), LoffT.Valid (pos + count - 1) →
    Conflicting (b.fileInode fp.filp).flcPosix fp.filp.id pos (pos + count - 1) .wrlck →
    ((smbVfsWrite oplocksEnable fid buf count pos sync).exec b).1.1 = -EAGAIN ∧
      ∀ e ∈ ((smbVfsWrite oplocksEnable fid buf count pos sync).exec b).2, e.1.pastGate = false
  /-- Without oplocks, a truncation whose changed bytes meet a lock of another owner fails with
  `-EAGAIN` and reaches no backend call. -/
  truncate : oplocksEnable = false → ∀ size : Int, LoffT.Valid size →
    LoffT.Valid (b.fileInode fp.filp).iSize →
    Conflicting (b.fileInode fp.filp).flcPosix fp.filp.id (min size (b.fileInode fp.filp).iSize)
      (max size (b.fileInode fp.filp).iSize - 1) .wrlck →
    ((smbVfsTruncate oplocksEnable none fid size).exec b).1 = -EAGAIN ∧
      ∀ e ∈ ((smbVfsTruncate oplocksEnable none fid size).exec b).2, e.1.pastGate = false
  /-- With oplocks, writes and truncations reach the backend only after the break. -/
  breaks : oplocksEnable = true →
    (∀ (buf count : Nat) (pos : Int) (sync : Bool),
      BreaksFirst ((smbVfsWrite oplocksEnable fid buf count pos sync).exec b).2) ∧
    ∀ size : Int, BreaksFirst ((smbVfsTruncate oplocksEnable none fid size).exec b).2
  /-- With oplocks, a truncation never probes the locks. -/
  truncateUnprobed : oplocksEnable = true → ∀ size : Int,
    ∀ e ∈ ((smbVfsTruncate oplocksEnable none fid size).exec b).2, e.1.isProbe = false
  /-- `smb_vfs_setattr` on the handle never probes and never breaks. -/
  setattr : ∀ attrs : Iattr, ∀ e ∈ ((smbVfsSetattr none fid attrs).exec b).2, e.1.gateCall = false

theorem lockGate_holds (oplocksEnable : Bool) (b : Backend) (fid : Nat) (fp : CifssrvFile)
    (hfp : b.answer (.getIdFromFidtable fid) = some fp) : LockGate oplocksEnable b fid fp where
  read _ _ hend hc := smbVfsRead_conflict b hfp hend hc
  write _ _ _ sync hend hc := smbVfsWrite_conflict b hfp oplocksEnable sync hend hc
  truncate := by
    rintro rfl size hsize hisize hc
    exact smbVfsTruncate_conflict b hfp hsize hisize hc
  breaks := by
    rintro rfl
    exact ⟨fun buf count pos sync => (smbVfsWrite_lease fid buf count pos sync).breaksFirst b,
      fun size => (smbVfsTruncate_lease fid size).breaksFirst b⟩
  truncateUnprobed := by
    rintro rfl size
    exact (smbVfsTruncate_unprobed none fid size).avoid_exec b
  setattr attrs := (smbVfsSetattr_ungated none fid attrs).avoid_exec b

theorem lockGate_holds_locked :
    lockedKernel.answer (.getIdFromFidtable 0) = some ⟨lockedFilp⟩ ∧
      LockGate true lockedKernel 0 ⟨lockedFilp⟩ :=
  ⟨rfl, lockGate_holds true lockedKernel 0 _ rfl⟩

/-! ## Two paths the probe does not guard -/

/-- Truncate to size 0 through `smb_vfs_setattr`. -/
def truncReq : Iattr := { iaValid := ATTR_SIZE, iaMode := 0, iaUid := 0, iaGid := 0, iaSize := 0 }

/-- Truncating the locked file to 0 changes the locked byte, and both a truncation of the open
file with `oplocks_enable` set and a size change through `smb_vfs_setattr` reach the backend and
succeed.  The size change does so without breaking any oplock. -/
theorem lockGate_misses_truncate_and_setattr :
    Conflicting lockedFile.flcPosix lockedFilp.id 0 9 .wrlck ∧
      ((smbVfsTruncate true none 0 0).exec lockedKernel).1 = 0 ∧
      ((smbVfsTruncate true none 0 0).exec lockedKernel).2.any (·.1.pastGate) ∧
      ((smbVfsSetattr none 0 truncReq).exec lockedKernel).1 = 0 ∧
      ((smbVfsSetattr none 0 truncReq).exec lockedKernel).2.any (·.1.pastGate) ∧
      ¬BreaksFirst ((smbVfsSetattr none 0 truncReq).exec lockedKernel).2 := by
  decide

end CifsdVfs

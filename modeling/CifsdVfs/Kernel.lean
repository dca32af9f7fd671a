import CifsdVfs.Basic

/-!
# The kernel interface of the VFS helpers

Every kernel primitive `vfs.c` calls is one constructor of `Op`, with the arguments the C
code passes; `Op.Res` is the type of what the primitive returns.  A helper is a `Prog`: a
tree whose nodes are kernel calls and whose branches are the continuations on each
possible result.  The helpers are written once, in this free monad, and given meaning
three times: against an arbitrary backend that records the calls (`Trace`), against a
model of the dentry cache (`Dcache`), and step by step among concurrent threads
(`Interleave`).

Writing the helpers over explicit calls, rather than over a state, is what lets one
definition serve all three: each semantics decides only what a call returns and what it
changes.
-/

namespace CifsdVfs

/-- The kernel primitives `vfs.c` calls, each with its arguments. -/
inductive Op where
  /-- `get_id_from_fidtable(server, fid)`. -/
  | getIdFromFidtable (fid : Nat)
  /-- `kern_path(name, flags, &path)`. -/
  | kernPath (name : CStr) (flags : Nat)
  | pathPut (path : Path)
  /-- `kern_path_create(AT_FDCWD, name, &path, flags)`: the parent path and the new dentry. -/
  | kernPathCreate (name : CStr) (flags : Nat)
  | donePathCreate (path : Path) (dentry : Dentry)
  | lookupOneLen (name : CStr) (base : Dentry)
  | dget (dentry : Dentry)
  | dput (dentry : Dentry)
  /-- A read of `dentry->d_parent`. -/
  | dParent (dentry : Dentry)
  /-- `dentry->d_inode`, dereferenced: the dentries vfs.c dereferences are positive. -/
  | dInode (dentry : Dentry)
  /-- The test `!dentry->d_inode`. -/
  | dNegative (dentry : Dentry)
  /-- `file_inode(filp)`. -/
  | fileInode (filp : Filp)
  | mutexLock (m : Mutex)
  | mutexUnlock (m : Mutex)
  /-- `lock_rename(p1, p2)`, which returns the trap. -/
  | lockRename (p1 p2 : Dentry)
  | unlockRename (p1 p2 : Dentry)
  | getWriteAccess (ino : Nat)
  | putWriteAccess (ino : Nat)
  | locksVerifyTruncate (ino : Nat) (size : Int)
  | getFs
  | setFs (seg : MmSegment)
  | vmalloc (size : Nat)
  | vfree (buf : Nat)
  /-- `posix_lock_file(filp, &fl, NULL)` on an `FL_ACCESS` probe. -/
  | posixLockFile (filp : Filp) (fl : FileLock)
  | posixUnblockLock (fl : FileLock)
  | smbBreakIIOplock (fp : CifssrvFile)
  | clearFFlags (filp : Filp) (flag : FFlag)
  | setFFlags (filp : Filp) (flag : FFlag)
  /-- The test `filp->f_mapping != NULL`. -/
  | fMapping (filp : Filp)
  /-- `inode_to_bdi(mapping->host)->ra_pages`. -/
  | bdiRaPages (filp : Filp)
  | setRaPages (filp : Filp) (pages : Nat)
  | spinLock (filp : Filp)
  | spinUnlock (filp : Filp)
  /-- Set (`true`) or clear `FMODE_RANDOM` in `filp->f_mode`. -/
  | setFModeRandom (filp : Filp) (set : Bool)
  | vfsCreate (dir dentry : Dentry) (mode : Umode) (excl : Bool)
  | vfsMkdir (dir dentry : Dentry) (mode : Umode)
  | vfsRead (filp : Filp) (buf count : Nat) (pos : Int)
  | vfsWrite (filp : Filp) (buf count : Nat) (pos : Int)
  | vfsFsyncRange (filp : Filp) (start stop : Int) (datasync : Nat)
  | notifyChange (dentry : Dentry) (attrs : Iattr)
  | syncInodeMetadata (ino : Nat)
  | vfsGetattr (path : Path)
  | vfsFsync (filp : Filp)
  | vfsRmdir (dir dentry : Dentry)
  | vfsUnlink (dir dentry : Dentry)
  | vfsLink (old dir new : Dentry)
  | vfsSymlink (dir dentry : Dentry) (oldname : CStr)
  /-- `inode->i_op->readlink(dentry, buf, len)`. -/
  | readlink (dentry : Dentry) (buf : Nat) (len : Int)
  | vfsRename (oldDir old newDir new : Dentry)
  | vfsTruncate (path : Path) (size : Int)
  | vfsListxattr (dentry : Dentry) (list : Option Nat) (size : Int)
  | vfsGetxattr (dentry : Dentry) (name : CStr) (buf : Option Nat) (size : Int)
  | vfsSetxattr (dentry : Dentry) (name : CStr) (value size : Nat) (flags : Int)
  | vfsLockFile (filp : Filp) (cmd : Int) (fl : FileLock)
  | iterateDir (filp : Filp) (ctx : Nat)

/-- What each primitive returns. `vfs_read` and `vfs_write` also return the updated `*pos`. -/
@[reducible] def Op.Res : Op → Type
  | .getIdFromFidtable _ => Option CifssrvFile
  | .kernPath _ _ => Except Int Path
  | .kernPathCreate _ _ => Except Int (Path × Dentry)
  | .lookupOneLen _ _ => Except Int Dentry
  | .dParent _ => Dentry
  | .dInode _ => Inode
  | .dNegative _ => Bool
  | .fileInode _ => Inode
  | .lockRename _ _ => Option Dentry
  | .getFs => MmSegment
  | .vmalloc _ => Option Nat
  | .fMapping _ => Bool
  | .bdiRaPages _ => Nat
  | .vfsRead .. => Int × Int
  | .vfsWrite .. => Int × Int
  | .getWriteAccess _ | .locksVerifyTruncate .. | .posixLockFile .. | .vfsCreate .. | .vfsMkdir ..
  | .vfsFsyncRange .. | .notifyChange .. | .vfsGetattr _ | .vfsFsync _ | .vfsRmdir ..
  | .vfsUnlink .. | .vfsLink .. | .vfsSymlink .. | .readlink .. | .vfsRename ..
  | .vfsTruncate .. | .vfsListxattr .. | .vfsGetxattr .. | .vfsSetxattr .. | .vfsLockFile ..
  | .iterateDir .. => Int
  | _ => Unit

instance (o : Op) : Inhabited o.Res := by cases o <;> exact ⟨default⟩

/-! Case splits over the results that the helpers branch on. -/

section ResCases
variable {fid flags : Nat} {name : CStr} {base d : Dentry} {size : Nat} {filp : Filp}

@[simp] theorem forall_res_getIdFromFidtable {P : (Op.getIdFromFidtable fid).Res → Prop} :
    (∀ r, P r) ↔ P none ∧ ∀ fp, P (some fp) := Option.forall
@[simp] theorem forall_res_kernPath {P : (Op.kernPath name flags).Res → Prop} :
    (∀ r, P r) ↔ (∀ e, P (.error e)) ∧ ∀ p, P (.ok p) :=
  ⟨fun h => ⟨fun _ => h _, fun _ => h _⟩, fun h r => by cases r; exacts [h.1 _, h.2 _]⟩
@[simp] theorem forall_res_kernPathCreate {P : (Op.kernPathCreate name flags).Res → Prop} :
    (∀ r, P r) ↔ (∀ e, P (.error e)) ∧ ∀ p d, P (.ok (p, d)) :=
  ⟨fun h => ⟨fun _ => h _, fun _ _ => h _⟩, fun h r => by rcases r with _ | ⟨_, _⟩; exacts [h.1 _, h.2 _ _]⟩
@[simp] theorem forall_res_lookupOneLen {P : (Op.lookupOneLen name base).Res → Prop} :
    (∀ r, P r) ↔ (∀ e, P (.error e)) ∧ ∀ d, P (.ok d) :=
  ⟨fun h => ⟨fun _ => h _, fun _ => h _⟩, fun h r => by cases r; exacts [h.1 _, h.2 _]⟩
@[simp] theorem forall_res_vmalloc {P : (Op.vmalloc size).Res → Prop} :
    (∀ r, P r) ↔ P none ∧ ∀ buf, P (some buf) := Option.forall
@[simp] theorem forall_res_dNegative {P : (Op.dNegative d).Res → Prop} :
    (∀ r, P r) ↔ P false ∧ P true := Bool.forall_bool
@[simp] theorem forall_res_fMapping {P : (Op.fMapping filp).Res → Prop} :
    (∀ r, P r) ↔ P false ∧ P true := Bool.forall_bool

end ResCases

/-- A helper: kernel calls, each followed by the rest of the helper on its result. -/
inductive Prog (α : Type) where
  | ret (a : α)
  | call (o : Op) (k : o.Res → Prog α)

namespace Prog
variable {α β : Type}

def bind : Prog α → (α → Prog β) → Prog β
  | .ret a, f => f a
  | .call o k, f => .call o fun r => (k r).bind f

instance : Monad Prog where
  pure := .ret
  bind := Prog.bind

@[simp] theorem pure_eq (a : α) : (pure a : Prog α) = .ret a := rfl
@[simp] theorem bind_eq (p : Prog α) (f : α → Prog β) : p >>= f = p.bind f := rfl
@[simp] theorem ret_bind (a : α) (f : α → Prog β) : (Prog.ret a).bind f = f a := rfl
@[simp] theorem call_bind (o : Op) (k : o.Res → Prog α) (f : α → Prog β) :
    (Prog.call o k).bind f = .call o fun r => (k r).bind f := rfl

theorem bind_assoc (p : Prog α) (f : α → Prog β) {γ : Type} (g : β → Prog γ) :
    (p.bind f).bind g = p.bind fun a => (f a).bind g := by
  induction p with
  | ret a => rfl
  | call o k ih => simp only [call_bind, ih]

end Prog

/-- One kernel call, returning its result. -/
def invoke (o : Op) : Prog o.Res := .call o .ret

@[simp] theorem invoke_bind {β : Type} (o : Op) (f : o.Res → Prog β) :
    (invoke o).bind f = .call o f := rfl

end CifsdVfs

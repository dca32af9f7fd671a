import Mathlib.Tactic.NormNum

/-!
# C-level data of the CIFSD VFS helpers

The values `fs/cifssrv/vfs.c` passes to and receives from the kernel: error numbers, C
strings, file offsets, mode bits, attribute change requests, POSIX byte-range locks and the
handles of open files.  Kernel pointers are modelled by their identity (a natural number);
the fields the helpers read are gathered in small records.

Integer widths follow the C types where arithmetic can wrap: a `loff_t` expression is
reduced by `loffT`, mode words are 16-bit and attribute masks 32-bit.  Error numbers have
their Linux values; the helpers return them negated, as the C code does.
-/

namespace CifsdVfs

/-! ## Error numbers -/

def ENOENT : Int := 2
def E2BIG : Int := 7
def EAGAIN : Int := 11
def ENOMEM : Int := 12
def EACCES : Int := 13
def EXDEV : Int := 18
def EISDIR : Int := 21
def EINVAL : Int := 22
def ERANGE : Int := 34
def ENOTEMPTY : Int := 39

/-! ## Strings and integers -/

/-- A C string: the characters before its terminating NUL. -/
abbrev CStr := List Char

/-- `strrchr(s, c)`: the tail of `s` that starts at the last `c`, or `NULL`. -/
def strrchr : CStr → Char → Option CStr
  | [], _ => none
  | x :: s, c =>
    match strrchr s c with
    | some t => some t
    | none => if x = c then some (x :: s) else none

/-- The value a C expression of type `loff_t` (signed, 64 bits) takes. -/
def loffT (x : Int) : Int := x.bmod (2 ^ 64)

/-- An integer a `loff_t` can hold. -/
def LoffT.Valid (x : Int) : Prop := -2 ^ 63 ≤ x ∧ x < 2 ^ 63

instance (x : Int) : Decidable (LoffT.Valid x) := inferInstanceAs (Decidable (_ ∧ _))

/-- A `loff_t` expression that does not overflow keeps its mathematical value. -/
theorem loffT_of_valid {x : Int} (h : LoffT.Valid x) : loffT x = x := by
  obtain ⟨h1, h2⟩ := h
  rw [loffT, Int.bmod_def]
  norm_num at *
  split <;> omega

/-- The conversion of a C `int` to `unsigned long`. -/
def ulong (x : Int) : Nat := (x % 2 ^ 64).toNat

/-! ## Modes and attribute changes -/

/-- `umode_t`. -/
abbrev Umode := BitVec 16

def S_IFMT : Umode := 0o170000#16
def S_IFLNK : Umode := 0o120000#16
def S_IFREG : Umode := 0o100000#16
def S_IFDIR : Umode := 0o040000#16
def S_ISUID : Umode := 0o4000#16
def S_ISGID : Umode := 0o2000#16
def S_IXGRP : Umode := 0o10#16
/-- `S_ISUID | S_ISGID | S_ISVTX | S_IRWXUGO`: every permission bit. -/
def S_IALLUGO : Umode := 0o7777#16

def S_ISDIR (m : Umode) : Bool := m &&& S_IFMT == S_IFDIR
def S_ISLNK (m : Umode) : Bool := m &&& S_IFMT == S_IFLNK

/-! The `ia_valid` bits, `1 << k` as `include/linux/fs.h` defines them. -/

def ATTR_MODE : BitVec 32 := .twoPow 32 0
def ATTR_UID : BitVec 32 := .twoPow 32 1
def ATTR_GID : BitVec 32 := .twoPow 32 2
def ATTR_SIZE : BitVec 32 := .twoPow 32 3
def ATTR_CTIME : BitVec 32 := .twoPow 32 6
def ATTR_KILL_SUID : BitVec 32 := .twoPow 32 11
def ATTR_KILL_SGID : BitVec 32 := .twoPow 32 12
def ATTR_KILL_PRIV : BitVec 32 := .twoPow 32 14

/-- `struct iattr`: the validity mask and the fields vfs.c reads or rewrites. -/
structure Iattr where
  iaValid : BitVec 32
  iaMode : Umode
  iaUid : Nat
  iaGid : Nat
  iaSize : Int
  deriving DecidableEq, Inhabited, Repr

/-! ## Locks, inodes and files -/

/-- `fl_type` of a POSIX lock: `F_RDLCK`, `F_WRLCK` or `F_UNLCK`. -/
inductive LockType where
  | rdlck
  | wrlck
  | unlck
  deriving DecidableEq, Inhabited, Repr

/-- `struct file_lock`: owner, the inclusive byte range `[flStart, flEnd]` and the type. -/
structure FileLock where
  flOwner : Nat
  flStart : Int
  flEnd : Int
  flType : LockType
  deriving DecidableEq, Inhabited, Repr

/-- The fields of `struct inode` the helpers read. `flcPosix` is `i_flctx->flc_posix`, the
POSIX locks held on the file (empty when there is no lock context). -/
structure Inode where
  ino : Nat
  iMode : Umode
  iUid : Nat
  iGid : Nat
  iSize : Int
  iNlink : Nat
  flcPosix : List FileLock
  deriving DecidableEq, Inhabited, Repr

/-- A `struct dentry *`, by identity. -/
abbrev Dentry := Nat

/-- `struct path`: a mount and a dentry. -/
structure Path where
  mnt : Nat
  dentry : Dentry
  deriving DecidableEq, Inhabited, Repr

/-- A `struct file *`: its identity and `f_path`, fixed when the file was opened. -/
structure Filp where
  id : Nat
  fPath : Path
  deriving DecidableEq, Inhabited, Repr

/-- `struct cifssrv_file`, an entry of the session's handle table. -/
structure CifssrvFile where
  filp : Filp
  deriving DecidableEq, Inhabited, Repr

/-- The mutexes vfs.c takes: the `i_mutex` of a dentry's inode, and `ofile_list_lock`. -/
inductive Mutex where
  | iMutex (d : Dentry)
  | ofileListLock
  deriving DecidableEq, Inhabited, Repr

/-- `mm_segment_t`, the address limit `set_fs` switches. -/
inductive MmSegment where
  | kernelDs
  | userDs
  deriving DecidableEq, Inhabited, Repr

/-- The `f_flags` bits vfs.c sets or clears. -/
inductive FFlag where
  | oSync
  | oDirect
  deriving DecidableEq, Inhabited, Repr

/-! ## Lookup flags, as `include/linux/namei.h` numbers them -/

def LOOKUP_FOLLOW : Nat := 0x1
def LOOKUP_DIRECTORY : Nat := 0x2
def LOOKUP_PARENT : Nat := 0x10
def LOOKUP_REVAL : Nat := 0x20

/-- `XATTR_LIST_MAX`, the largest list `listxattr` returns. -/
def XATTR_LIST_MAX : Int := 65536

end CifsdVfs

import CifsdVfs.Kernel

/-!
# The helpers of `vfs.c` that work on file contents and attributes

A line-by-line translation of the helpers that take an open file (by its `fid`) or a path
and read, write, truncate, lock-probe or change attributes.  Each helper is a `Prog`:
its kernel calls appear in the order the C code makes them, with the same arguments, and
every `goto` and early `return` is a branch of the program.

Out-parameters are returned: `smb_vfs_read` returns the buffer it stores in `*buf` and the
new `*pos`; `smb_vfs_write` returns `*written` and `*pos`; `smb_vfs_listxattr` returns the
buffer stored in `*list`.  Logging (`cifssrv_err`, `cifssrv_debug`, the `d_path` made only
for a message) has no effect on the kernel and is left out.

Where the C code has version conditionals, the branch for kernels after 3.10.30 is the one
translated; the two branches make the same calls.
-/

namespace CifsdVfs

/-- `smb_vfs_locks_mandatory_area`: probe `[start, stop]` for a lock of another owner that
conflicts with `type`, without taking one.  The owner of the probe is the file itself. -/
def smbVfsLocksMandatoryArea (filp : Filp) (start stop : Int) (type : LockType) : Prog Int := do
  let inode ← invoke (.fileInode filp)
  if inode.flcPosix = [] then return 0
  let fl : FileLock := { flOwner := filp.id, flStart := start, flEnd := stop, flType := type }
  let error ← invoke (.posixLockFile filp fl)
  invoke (.posixUnblockLock fl)
  return error

/-- `smb_vfs_read`: the result, the buffer stored in `*buf`, and `*pos` on return. -/
def smbVfsRead (fid count : Nat) (pos : Int) : Prog (Int × Option Nat × Int) := do
  if count = 0 then return (0, none, pos)
  match ← invoke (.getIdFromFidtable fid) with
  | none => return (-ENOENT, none, pos)
  | some fp =>
    let filp := fp.filp
    let inode ← invoke (.dInode filp.fPath.dentry)
    if S_ISDIR inode.iMode then return (-EISDIR, none, pos)
    let ret ← smbVfsLocksMandatoryArea filp pos (loffT (pos + count - 1)) .rdlck
    if ret = -EAGAIN then return (ret, none, pos)
    match ← invoke (.vmalloc count) with
    | none => return (-ENOENT, none, pos)
    | some rbuf =>
      let oldFs ← invoke .getFs
      invoke (.setFs .kernelDs)
      -- reads are always buffered: clear a direct-I/O flag the client asked for
      invoke (.clearFFlags filp .oDirect)
      let (nbytes, pos) ← invoke (.vfsRead filp rbuf count pos)
      invoke (.setFs oldFs)
      if nbytes < 0 then
        invoke (.vfree rbuf)
        return (nbytes, none, pos)
      return (nbytes, some rbuf, pos)

/-- `smb_vfs_write`: the result, `*written` when it is set, and `*pos` on return.
`oplocksEnable` is the module parameter `oplocks_enable`. -/
def smbVfsWrite (oplocksEnable : Bool) (fid buf count : Nat) (pos : Int) (sync : Bool) :
    Prog (Int × Option Int × Int) := do
  let offset := pos
  match ← invoke (.getIdFromFidtable fid) with
  | none => return (-ENOENT, none, pos)
  | some fp =>
    let filp := fp.filp
    let err ← smbVfsLocksMandatoryArea filp pos (loffT (pos + count - 1)) .wrlck
    if err = -EAGAIN then return (err, none, pos)
    let oldFs ← invoke .getFs
    invoke (.setFs .kernelDs)
    if oplocksEnable then
      -- break the level II oplocks of other clients
      invoke (.mutexLock .ofileListLock)
      invoke (.smbBreakIIOplock fp)
      invoke (.mutexUnlock .ofileListLock)
    let (err, pos) ← invoke (.vfsWrite filp buf count pos)
    invoke (.setFs oldFs)
    if err < 0 then return (err, none, pos)
    let written := err
    if sync then
      let err ← invoke (.vfsFsyncRange filp offset (loffT (offset + written)) 0)
      return (err, some written, pos)
    return (0, some written, pos)

/-- `smb_check_attrs`: keep the file type out of a mode change, and revoke set-id bits when
the owner or group of a non-directory changes. -/
def smbCheckAttrs (inode : Inode) (attrs : Iattr) : Iattr :=
  -- sanitize the mode change
  let attrs := if attrs.iaValid &&& ATTR_MODE ≠ 0 then
      { attrs with iaMode := attrs.iaMode &&& S_IALLUGO ||| inode.iMode &&& ~~~S_IALLUGO }
    else attrs
  -- revoke setuid/setgid on chown
  if !S_ISDIR inode.iMode ∧
      (attrs.iaValid &&& ATTR_UID ≠ 0 ∧ attrs.iaUid ≠ inode.iUid ∨
        attrs.iaValid &&& ATTR_GID ≠ 0 ∧ attrs.iaGid ≠ inode.iGid) then
    let attrs := { attrs with iaValid := attrs.iaValid ||| ATTR_KILL_PRIV }
    if attrs.iaValid &&& ATTR_MODE ≠ 0 then
      -- setting the mode too: just clear the set-id bits
      let attrs := { attrs with iaMode := attrs.iaMode &&& ~~~S_ISUID }
      if attrs.iaMode &&& S_IXGRP ≠ 0 then { attrs with iaMode := attrs.iaMode &&& ~~~S_ISGID }
      else attrs
    else { attrs with iaValid := attrs.iaValid ||| (ATTR_KILL_SUID ||| ATTR_KILL_SGID) }
  else attrs

/-- The end of `smb_vfs_setattr`, from the setting of `ATTR_CTIME` to label `out`:
`notify_change` under the inode's mutex, then the release of the write access taken for a
size change (`updateSize`) and, on success, the metadata sync. -/
def smbVfsSetattrNotify (dentry : Dentry) (ino : Nat) (attrs : Iattr) (updateSize : Bool) :
    Prog Int := do
  let attrs := { attrs with iaValid := attrs.iaValid ||| ATTR_CTIME }
  invoke (.mutexLock (.iMutex dentry))
  let err ← invoke (.notifyChange dentry attrs)
  invoke (.mutexUnlock (.iMutex dentry))
  if updateSize then invoke (.putWriteAccess ino)
  if err = 0 then invoke (.syncInodeMetadata ino)
  return err

/-- `smb_vfs_setattr` from the test of `ATTR_SIZE` on the sanitized attributes to label `out`.
The C code's `update_size` flag is the last argument of `smbVfsSetattrNotify`. -/
def smbVfsSetattrSize (dentry : Dentry) (inode : Inode) (attrs : Iattr) : Prog Int := do
  if attrs.iaValid &&& ATTR_SIZE ≠ 0 then
    let err ← invoke (.getWriteAccess inode.ino)
    if err ≠ 0 then return err
    let err ← invoke (.locksVerifyTruncate inode.ino attrs.iaSize)
    if err ≠ 0 then
      invoke (.putWriteAccess inode.ino)
      return err
    smbVfsSetattrNotify dentry inode.ino attrs true
  else smbVfsSetattrNotify dentry inode.ino attrs false

/-- `smb_vfs_setattr` once the dentry is found: from the symlink test to label `out`. -/
def smbVfsSetattrDentry (dentry : Dentry) (attrs : Iattr) : Prog Int := do
  let inode ← invoke (.dInode dentry)
  -- no need to update the mode of a symlink
  let attrs := if S_ISLNK inode.iMode then { attrs with iaValid := attrs.iaValid &&& ~~~ATTR_MODE }
    else attrs
  -- skip setattr if there is nothing to update
  if attrs.iaValid = 0 then return 0
  smbVfsSetattrSize dentry inode (smbCheckAttrs inode attrs)

/-- `smb_vfs_setattr`: the target is `name` when given, else the open file `fid`. -/
def smbVfsSetattr (name : Option CStr) (fid : Nat) (attrs : Iattr) : Prog Int := do
  match name with
  | some name =>
    match ← invoke (.kernPath name 0) with
    | .error _ => return -ENOENT
    | .ok path =>
      let err ← smbVfsSetattrDentry path.dentry attrs
      invoke (.pathPut path)
      return err
  | none =>
    match ← invoke (.getIdFromFidtable fid) with
    | none => return -ENOENT
    | some fp => smbVfsSetattrDentry fp.filp.fPath.dentry attrs

/-- `smb_vfs_getattr`. The `kstat` it fills is not modelled. -/
def smbVfsGetattr (fid : Nat) : Prog Int := do
  match ← invoke (.getIdFromFidtable fid) with
  | none => return -ENOENT
  | some fp => invoke (.vfsGetattr fp.filp.fPath)

/-- `smb_vfs_fsync`. -/
def smbVfsFsync (fid : Nat) : Prog Int := do
  match ← invoke (.getIdFromFidtable fid) with
  | none => return -ENOENT
  | some fp => invoke (.vfsFsync fp.filp)

/-- `smb_vfs_truncate`: by `name` when given, else the open file `fid`. -/
def smbVfsTruncate (oplocksEnable : Bool) (name : Option CStr) (fid : Nat) (size : Int) :
    Prog Int := do
  match name with
  | some name =>
    match ← invoke (.kernPath name 0) with
    | .error err => return err
    | .ok path =>
      let err ← invoke (.vfsTruncate path size)
      invoke (.pathPut path)
      return err
  | none =>
    match ← invoke (.getIdFromFidtable fid) with
    | none => return -ENOENT
    | some fp =>
      let filp := fp.filp
      if oplocksEnable then
        -- break the level II oplocks of other clients
        invoke (.mutexLock .ofileListLock)
        invoke (.smbBreakIIOplock fp)
        invoke (.mutexUnlock .ofileListLock)
      else
        let inode ← invoke (.fileInode filp)
        let err ← if size < inode.iSize then
            smbVfsLocksMandatoryArea filp size (loffT (inode.iSize - 1)) .wrlck
          else smbVfsLocksMandatoryArea filp inode.iSize (loffT (size - 1)) .wrlck
        if err = -EAGAIN then return err
      invoke (.vfsTruncate filp.fPath size)

/-- `smb_vfs_listxattr`: the result and the buffer stored in `*list`. -/
def smbVfsListxattr (dentry : Dentry) (size : Int) : Prog (Int × Option Nat) := do
  let mut size := size
  let mut vlist : Option Nat := none
  if size ≠ 0 then
    if size > XATTR_LIST_MAX then size := XATTR_LIST_MAX
    match ← invoke (.vmalloc (ulong size)) with
    | none => return (-ENOMEM, none)
    | some b => vlist := some b
  let err ← invoke (.vfsListxattr dentry vlist size)
  if err > 0 then return (err, vlist)
  -- the file system tried to return a list longer than XATTR_LIST_MAX
  if err = -ERANGE then return (-E2BIG, none)
  return (err, none)

/-- `smb_vfs_getxattr`: ask the length first, then read the value into `xattrBuf`. -/
def smbVfsGetxattr (dentry : Dentry) (xattrName : CStr) (xattrBuf bufLen : Nat) : Prog Int := do
  let xattrLen ← invoke (.vfsGetxattr dentry xattrName none 0)
  if xattrLen ≤ 0 then return xattrLen
  if xattrLen > bufLen then return -ENOMEM
  invoke (.vfsGetxattr dentry xattrName (some xattrBuf) xattrLen)

/-- `smb_vfs_setxattr`: on `filename` when given, else on `fpath`. -/
def smbVfsSetxattr (filename : Option CStr) (fpath : Path) (name : CStr) (value size : Nat)
    (flags : Int) : Prog Int := do
  match filename with
  | some filename =>
    match ← invoke (.kernPath filename 0) with
    | .error err => return err
    | .ok path =>
      let err ← invoke (.vfsSetxattr path.dentry name value size flags)
      invoke (.pathPut path)
      return err
  | none => invoke (.vfsSetxattr fpath.dentry name value size flags)

/-- The create-option bits `FILE_WRITE_THROUGH_LE`, `FILE_NO_INTERMEDIATE_BUFFERING_LE`,
`FILE_SEQUENTIAL_ONLY_LE` and `FILE_RANDOM_ACCESS_LE`, defined in the protocol headers. -/
structure CreateOptions where
  writeThrough : BitVec 32
  noIntermediateBuffering : BitVec 32
  sequentialOnly : BitVec 32
  randomAccess : BitVec 32

/-- `smb_vfs_set_fadvise`: turn the client's caching hints into file flags. -/
def smbVfsSetFadvise (le : CreateOptions) (filp : Filp) (option : BitVec 32) : Prog Unit := do
  let mapping ← invoke (.fMapping filp)
  if option = 0 ∨ !mapping then return
  if option &&& le.writeThrough ≠ 0 then invoke (.setFFlags filp .oSync)
  else if option &&& le.noIntermediateBuffering ≠ 0 then invoke (.setFFlags filp .oDirect)
  else if option &&& le.sequentialOnly ≠ 0 then
    let raPages ← invoke (.bdiRaPages filp)
    invoke (.setRaPages filp (raPages * 2))
    invoke (.spinLock filp)
    invoke (.setFModeRandom filp false)
    invoke (.spinUnlock filp)
  else if option &&& le.randomAccess ≠ 0 then
    invoke (.spinLock filp)
    invoke (.setFModeRandom filp true)
    invoke (.spinUnlock filp)

/-- `smb_vfs_lock`. -/
def smbVfsLock (filp : Filp) (cmd : Int) (flock : FileLock) : Prog Int :=
  invoke (.vfsLockFile filp cmd flock)

/-- `smb_vfs_readdir`. -/
def smbVfsReaddir (file : Filp) (ctx : Nat) : Prog Int :=
  invoke (.iterateDir file ctx)

end CifsdVfs

import CifsdVfs.Kernel

/-!
# The helpers of `vfs.c` that change the namespace

Create, mkdir, rmdir, unlink, link, symlink, readlink and rename, translated call by call.
Each read of `d_parent` in the C code is a separate kernel call here, because between two
reads another thread may move the dentry: `Interleave` depends on that.

`smb_vfs_rename` is cut at its labels.  `smbVfsRenameTarget` is the code from the lookup
of the new name to `out4`, `smbVfsRenameSource` from the test of the source's inode to
`out3`, and `smbVfsRenameLocked` from `lock_rename` to `out2`; `smbVfsRename` resolves the
two parents, by path or by the open file, and releases the paths at `out1`.
-/

namespace CifsdVfs

/-- `smb_vfs_create`. -/
def smbVfsCreate (name : CStr) (mode : Umode) : Prog Int := do
  match ← invoke (.kernPathCreate name 0) with
  | .error err => return err
  | .ok (path, dentry) =>
    let err ← invoke (.vfsCreate path.dentry dentry (mode &&& ~~~S_IFMT ||| S_IFREG) true)
    invoke (.donePathCreate path dentry)
    return err

/-- `smb_vfs_mkdir`. -/
def smbVfsMkdir (name : CStr) (mode : Umode) : Prog Int := do
  match ← invoke (.kernPathCreate name LOOKUP_DIRECTORY) with
  | .error err => return err
  | .ok (path, dentry) =>
    let err ← invoke (.vfsMkdir path.dentry dentry (mode &&& ~~~S_IFMT ||| S_IFDIR))
    invoke (.donePathCreate path dentry)
    return err

/-- `smb_vfs_rmdir`. -/
def smbVfsRmdir (name : CStr) : Prog Int := do
  match ← invoke (.kernPath name LOOKUP_DIRECTORY) with
  | .error err => return err
  | .ok path =>
    let parent ← invoke (.dParent path.dentry)
    invoke (.mutexLock (.iMutex parent))
    let dir ← invoke (.dParent path.dentry)
    let err ← invoke (.vfsRmdir dir path.dentry)
    let parent ← invoke (.dParent path.dentry)
    invoke (.mutexUnlock (.iMutex parent))
    invoke (.pathPut path)
    return err

/-- `smb_vfs_unlink`. A dentry whose inode has no links left is skipped with result 0. -/
def smbVfsUnlink (name : CStr) : Prog Int := do
  match ← invoke (.kernPath name 0) with
  | .error err => return err
  | .ok path =>
    invoke (.dget path.dentry)
    let parent ← invoke (.dParent path.dentry)
    invoke (.mutexLock (.iMutex parent))
    let inode ← invoke (.dInode path.dentry)
    let err ← if inode.iNlink = 0 then pure 0 else do
      let dir ← invoke (.dParent path.dentry)
      invoke (.vfsUnlink dir path.dentry)
    let parent ← invoke (.dParent path.dentry)
    invoke (.mutexUnlock (.iMutex parent))
    invoke (.dput path.dentry)
    invoke (.pathPut path)
    return err

/-- `smb_vfs_link`. Its `kern_path_create` flags are `LOOKUP_FOLLOW & LOOKUP_REVAL`, as
written in the source. -/
def smbVfsLink (oldname newname : CStr) : Prog Int := do
  match ← invoke (.kernPath oldname LOOKUP_FOLLOW) with
  | .error err => return err
  | .ok oldpath =>
    let err ← match ← invoke (.kernPathCreate newname (LOOKUP_FOLLOW &&& LOOKUP_REVAL)) with
      | .error err => pure err
      | .ok (newpath, dentry) => do
        let err ← if oldpath.mnt ≠ newpath.mnt then pure (-EXDEV)
          else invoke (.vfsLink oldpath.dentry newpath.dentry dentry)
        invoke (.donePathCreate newpath dentry)
        pure err
    invoke (.pathPut oldpath)
    return err

/-- `smb_vfs_symlink`: create `symname` pointing to `name`. -/
def smbVfsSymlink (name symname : CStr) : Prog Int := do
  match ← invoke (.kernPathCreate symname 0) with
  | .error err => return err
  | .ok (path, dentry) =>
    let dir ← invoke (.dParent dentry)
    let err ← invoke (.vfsSymlink dir dentry name)
    invoke (.donePathCreate path dentry)
    return err

/-- `smb_vfs_readlink`. -/
def smbVfsReadlink (path : Option Path) (buf : Nat) (lenp : Int) : Prog Int := do
  match path with
  | none => return -ENOENT
  | some path =>
    let inode ← invoke (.dInode path.dentry)
    if !S_ISLNK inode.iMode then return -EINVAL
    let oldFs ← invoke .getFs
    invoke (.setFs .kernelDs)
    let err ← invoke (.readlink path.dentry buf lenp)
    invoke (.setFs oldFs)
    return err

/-! ## Rename -/

/-- `strrchr(path, '/')` stepped past the slash, when a component follows it; the test each
branch of `smb_vfs_rename` repeats. -/
def lastComponent (s : CStr) : Option CStr :=
  match strrchr s '/' with
  | some (_ :: c :: cs) => some (c :: cs)
  | _ => none

/-- From the test of the target against the trap to label `out4`, for a target `dnew` whose
reference is held. -/
def smbVfsRenameTo (doldP dold dnewP dnew : Dentry) (trap : Option Dentry) : Prog Int := do
  let err ← if some dnew = trap then pure (-ENOTEMPTY)
    else invoke (.vfsRename doldP dold dnewP dnew)
  invoke (.dput dnew)
  return err

/-- From the lookup of `newname` in `dnewP` to label `out4`. -/
def smbVfsRenameTarget (doldP dold dnewP : Dentry) (newname : CStr) (trap : Option Dentry) :
    Prog Int := do
  match ← invoke (.lookupOneLen newname dnewP) with
  | .error err => return err
  | .ok dnew => smbVfsRenameTo doldP dold dnewP dnew trap

/-- From the test of the source's inode to label `out3`, for a source `dold` whose
reference is held. -/
def smbVfsRenameSource (doldP dold dnewP : Dentry) (newname : CStr) (trap : Option Dentry) :
    Prog Int := do
  let err ← if (← invoke (.dNegative dold)) then pure (-ENOENT)
    else if some dold = trap then pure (-EINVAL)
    else smbVfsRenameTarget doldP dold dnewP newname trap
  invoke (.dput dold)
  return err

/-- How the source is found once the parents are locked: by looking up `oldname` in its
parent, or as the dentry of the open file. -/
inductive RenameSource where
  | name (oldname : CStr)
  | fid (dentry : Dentry)

/-- From `lock_rename` to label `out2`. -/
def smbVfsRenameLocked (doldP dnewP : Dentry) (src : RenameSource) (newname : CStr) :
    Prog Int := do
  let trap ← invoke (.lockRename doldP dnewP)
  let err ← match src with
    | .name oldname => do
      match ← invoke (.lookupOneLen oldname doldP) with
      | .error err => pure err
      | .ok dold => smbVfsRenameSource doldP dold dnewP newname trap
    | .fid dold => do
      invoke (.dget dold)
      smbVfsRenameSource doldP dold dnewP newname trap
  invoke (.unlockRename doldP dnewP)
  return err

/-- `smb_vfs_rename`: rename `absOldname` to `absNewname`, or, without a source name, the
open file `oldfid`. -/
def smbVfsRename (absOldname : Option CStr) (absNewname : CStr) (oldfid : Nat) : Prog Int := do
  match absOldname with
  | some absOldname =>
    -- normal case: rename with source filename
    match lastComponent absOldname with
    | none => return -ENOENT
    | some oldname =>
      match ← invoke (.kernPath absOldname LOOKUP_PARENT) with
      | .error _ => return -ENOENT
      | .ok oldpathP =>
        match lastComponent absNewname with
        | none =>
          invoke (.pathPut oldpathP)
          return -ENOMEM
        | some newname =>
          match ← invoke (.kernPath absNewname LOOKUP_PARENT) with
          | .error err =>
            invoke (.pathPut oldpathP)
            return err
          | .ok newpathP =>
            let err ← smbVfsRenameLocked oldpathP.dentry newpathP.dentry (.name oldname) newname
            invoke (.pathPut newpathP)
            invoke (.pathPut oldpathP)
            return err
  | none =>
    -- rename by fid of source file instead of source filename
    match ← invoke (.getIdFromFidtable oldfid) with
    | none => return -ENOENT
    | some fp =>
      let doldP ← invoke (.dParent fp.filp.fPath.dentry)
      match lastComponent absNewname with
      | none => return -ENOMEM
      | some newname =>
        match ← invoke (.kernPath absNewname LOOKUP_PARENT) with
        | .error err => return err
        | .ok newpathP =>
          let err ← smbVfsRenameLocked doldP newpathP.dentry (.fid fp.filp.fPath.dentry) newname
          invoke (.pathPut newpathP)
          return err

end CifsdVfs

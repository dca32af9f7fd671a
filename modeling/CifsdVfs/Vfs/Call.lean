import CifsdVfs.Vfs.File
import CifsdVfs.Vfs.Namei

/-!
# The requests the server makes of `vfs.c`

One constructor for each helper `vfs.c` exports, with the arguments the caller passes, and
`Call.run` for the helper's program.  `smb_check_attrs` is left out: it is a function of its
arguments and makes no kernel call.

The module parameter `oplocks_enable` and the create-option constants of the protocol
headers are fixed for a running server, so they are arguments of `Call.run`.
-/

namespace CifsdVfs

/-- A call of one helper of `vfs.c`. -/
inductive Call where
  | create (name : CStr) (mode : Umode)
  | mkdir (name : CStr) (mode : Umode)
  | read (fid count : Nat) (pos : Int)
  | write (fid buf count : Nat) (pos : Int) (sync : Bool)
  | setattr (name : Option CStr) (fid : Nat) (attrs : Iattr)
  | getattr (fid : Nat)
  | fsync (fid : Nat)
  | rmdir (name : CStr)
  | unlink (name : CStr)
  | link (oldname newname : CStr)
  | symlink (name symname : CStr)
  | readlink (path : Option Path) (buf : Nat) (lenp : Int)
  | rename (absOldname : Option CStr) (absNewname : CStr) (oldfid : Nat)
  | truncate (name : Option CStr) (fid : Nat) (size : Int)
  | listxattr (dentry : Dentry) (size : Int)
  | getxattr (dentry : Dentry) (xattrName : CStr) (xattrBuf bufLen : Nat)
  | setxattr (filename : Option CStr) (fpath : Path) (name : CStr) (value size : Nat)
      (flags : Int)
  | setFadvise (filp : Filp) (option : BitVec 32)
  | lock (filp : Filp) (cmd : Int) (flock : FileLock)
  | locksMandatoryArea (filp : Filp) (start stop : Int) (type : LockType)
  | readdir (file : Filp) (ctx : Nat)

/-- What a call returns: the C result with the out-parameters it sets. -/
@[reducible] def Call.Ret : Call → Type
  | .read .. => Int × Option Nat × Int
  | .write .. => Int × Option Int × Int
  | .listxattr .. => Int × Option Nat
  | .setFadvise .. => Unit
  | _ => Int

/-- The helper a call runs. -/
def Call.run (oplocksEnable : Bool) (le : CreateOptions) : (c : Call) → Prog c.Ret
  | .create name mode => smbVfsCreate name mode
  | .mkdir name mode => smbVfsMkdir name mode
  | .read fid count pos => smbVfsRead fid count pos
  | .write fid buf count pos sync => smbVfsWrite oplocksEnable fid buf count pos sync
  | .setattr name fid attrs => smbVfsSetattr name fid attrs
  | .getattr fid => smbVfsGetattr fid
  | .fsync fid => smbVfsFsync fid
  | .rmdir name => smbVfsRmdir name
  | .unlink name => smbVfsUnlink name
  | .link oldname newname => smbVfsLink oldname newname
  | .symlink name symname => smbVfsSymlink name symname
  | .readlink path buf lenp => smbVfsReadlink path buf lenp
  | .rename absOldname absNewname oldfid => smbVfsRename absOldname absNewname oldfid
  | .truncate name fid size => smbVfsTruncate oplocksEnable name fid size
  | .listxattr dentry size => smbVfsListxattr dentry size
  | .getxattr dentry xattrName xattrBuf bufLen => smbVfsGetxattr dentry xattrName xattrBuf bufLen
  | .setxattr filename fpath name value size flags =>
    smbVfsSetxattr filename fpath name value size flags
  | .setFadvise filp option => smbVfsSetFadvise le filp option
  | .lock filp cmd flock => smbVfsLock filp cmd flock
  | .locksMandatoryArea filp start stop type => smbVfsLocksMandatoryArea filp start stop type
  | .readdir file ctx => smbVfsReaddir file ctx

end CifsdVfs

import CifsdVfs.Basic
import CifsdVfs.Kernel
import CifsdVfs.Trace
import CifsdVfs.Vfs.File
import CifsdVfs.Vfs.Namei
import CifsdVfs.Vfs.Call
import CifsdVfs.Resources
import CifsdVfs.Commit
import CifsdVfs.Attr
import CifsdVfs.LockGate
import CifsdVfs.Dcache
import CifsdVfs.Rename
import CifsdVfs.Interleave
import CifsdVfs.Discipline

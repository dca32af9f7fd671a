import CifsdVfs.Trace
import CifsdVfs.Vfs.File

/-!
# What `smb_vfs_setattr` passes to `notify_change`

`smb_vfs_setattr` drops a mode change on a symbolic link and skips an empty request;
`smb_check_attrs` keeps the file type out of a mode change and revokes the set-id bits when
the owner or group of a file that is not a directory changes; `ATTR_CTIME` is added last.
`setattrArgs` is that chain of rewrites, `Sanitized` what its result satisfies, bit by bit,
and `smbVfsSetattr_notifyChange` that on every backend each `notify_change` call of the
helper receives attributes sanitized for the inode it read.

The proofs go through two tables, `setattrArgs_valid` and `setattrArgs_mode`, which give
each bit of the result; every property is then a statement about a few bits.
-/

namespace CifsdVfs

/-! ## Single bits -/

@[simp] theorem and_twoPow_eq_zero {w : Nat} (x : BitVec w) {i : Nat} (hi : i < w) :
    x &&& .twoPow w i = 0#w ↔ x.getLsbD i = false := by
  rw [BitVec.and_twoPow]
  split
  · simp only [*, Bool.true_eq_false, iff_false]
    intro h
    simpa [hi] using congrArg (BitVec.getLsbD · i) h
  · simp_all

theorem and_twoPow_eq_and_twoPow {w : Nat} {x y : BitVec w} {i : Nat} (hi : i < w) :
    x &&& .twoPow w i = y &&& .twoPow w i ↔ x.getLsbD i = y.getLsbD i := by
  rw [BitVec.and_twoPow, BitVec.and_twoPow]
  have : BitVec.twoPow w i ≠ 0#w := fun h => by simpa [hi] using congrArg (BitVec.getLsbD · i) h
  cases x.getLsbD i <;> cases y.getLsbD i <;> simp [this, this.symm]

theorem S_ISUID_eq : S_ISUID = .twoPow 16 11 := by decide
theorem S_ISGID_eq : S_ISGID = .twoPow 16 10 := by decide
theorem S_IXGRP_eq : S_IXGRP = .twoPow 16 3 := by decide
theorem S_IFMT_eq : S_IFMT = ~~~S_IALLUGO := by decide

theorem S_IALLUGO_getLsbD (i : Nat) : S_IALLUGO.getLsbD i = decide (i < 12) := by
  rw [S_IALLUGO, BitVec.getLsbD_ofNat, show (0o7777 : Nat) = 2 ^ 12 - 1 by rfl,
    Nat.testBit_two_pow_sub_one]
  by_cases h : i < 12 <;> simp [h]; omega

/-! ## `smb_check_attrs` -/

/-- The test of `smb_check_attrs` that revokes the set-id bits: the request changes the
owner or the group of a file that is not a directory. -/
def Chown (inode : Inode) (attrs : Iattr) : Prop :=
  (!S_ISDIR inode.iMode) = true ∧
    (attrs.iaValid &&& ATTR_UID ≠ 0 ∧ attrs.iaUid ≠ inode.iUid ∨
      attrs.iaValid &&& ATTR_GID ≠ 0 ∧ attrs.iaGid ≠ inode.iGid)

instance (inode : Inode) (attrs : Iattr) : Decidable (Chown inode attrs) :=
  inferInstanceAs (Decidable (_ ∧ _))

theorem chown_dropMode (inode : Inode) (req : Iattr) :
    Chown inode { req with iaValid := req.iaValid &&& ~~~ATTR_MODE } ↔ Chown inode req := by
  simp [Chown, ATTR_MODE, ATTR_UID, ATTR_GID, BitVec.getLsbD_twoPow]

section CheckAttrs
variable (inode : Inode) (a : Iattr)

/-- `smb_check_attrs` adds `ATTR_KILL_PRIV` on a change of owner, and `ATTR_KILL_SUID` and
`ATTR_KILL_SGID` too when the mode is not changed with it. -/
theorem smbCheckAttrs_iaValid :
    (smbCheckAttrs inode a).iaValid =
      if Chown inode a then
        if a.iaValid &&& ATTR_MODE ≠ 0 then a.iaValid ||| ATTR_KILL_PRIV
        else a.iaValid ||| ATTR_KILL_PRIV ||| (ATTR_KILL_SUID ||| ATTR_KILL_SGID)
      else a.iaValid := by
  unfold smbCheckAttrs Chown
  dsimp only
  split_ifs <;> simp_all [ATTR_MODE, ATTR_KILL_PRIV, ATTR_KILL_SUID, ATTR_KILL_SGID, BitVec.getLsbD_twoPow]

/-- A mode change takes the file type from the inode, and loses the set-id bits that a change
of owner revokes. -/
theorem smbCheckAttrs_iaMode :
    (smbCheckAttrs inode a).iaMode =
      if a.iaValid &&& ATTR_MODE ≠ 0 then
        let m := a.iaMode &&& S_IALLUGO ||| inode.iMode &&& ~~~S_IALLUGO
        if Chown inode a then
          if a.iaMode &&& S_IXGRP ≠ 0 then m &&& ~~~S_ISUID &&& ~~~S_ISGID else m &&& ~~~S_ISUID
        else m
      else a.iaMode := by
  unfold smbCheckAttrs Chown
  dsimp only
  split_ifs <;> simp_all [ATTR_MODE, ATTR_KILL_PRIV, S_IXGRP_eq, S_ISUID_eq,
    BitVec.getLsbD_twoPow, S_IALLUGO]

@[simp] theorem smbCheckAttrs_iaUid : (smbCheckAttrs inode a).iaUid = a.iaUid := by
  unfold smbCheckAttrs; dsimp only; split_ifs <;> rfl
@[simp] theorem smbCheckAttrs_iaGid : (smbCheckAttrs inode a).iaGid = a.iaGid := by
  unfold smbCheckAttrs; dsimp only; split_ifs <;> rfl

end CheckAttrs

/-! ## The attributes that reach `notify_change` -/

/-- What the attributes `ia` passed to `notify_change` for the request `req` on `inode`
satisfy: a mode change keeps the file type and the requested permission bits but the revoked
set-id bits; a symbolic link's mode is not changed; a change of owner of a non-directory
revokes the set-id bits, in the mode or by `ATTR_KILL_*`; every requested bit but a dropped
mode change is kept, with `ATTR_CTIME`; and the request was not empty. -/
structure Sanitized (inode : Inode) (req ia : Iattr) : Prop where
  modeType : ia.iaValid &&& ATTR_MODE ≠ 0 → ia.iaMode &&& S_IFMT = inode.iMode &&& S_IFMT
  modePerm : ia.iaValid &&& ATTR_MODE ≠ 0 →
    ia.iaMode &&& S_IALLUGO &&& ~~~(S_ISUID ||| S_ISGID) =
      req.iaMode &&& S_IALLUGO &&& ~~~(S_ISUID ||| S_ISGID)
  modeSuid : ia.iaValid &&& ATTR_MODE ≠ 0 → ¬Chown inode req →
    ia.iaMode &&& S_ISUID = req.iaMode &&& S_ISUID
  modeSgid : ia.iaValid &&& ATTR_MODE ≠ 0 → (Chown inode req → req.iaMode &&& S_IXGRP = 0) →
    ia.iaMode &&& S_ISGID = req.iaMode &&& S_ISGID
  symlink : S_ISLNK inode.iMode → ia.iaValid &&& ATTR_MODE = 0
  killPriv : Chown inode req → ia.iaValid &&& ATTR_KILL_PRIV ≠ 0
  killSuid : Chown inode req → ia.iaValid &&& ATTR_MODE ≠ 0 → ia.iaMode &&& S_ISUID = 0
  killSgid : Chown inode req → ia.iaValid &&& ATTR_MODE ≠ 0 → ia.iaMode &&& S_IXGRP ≠ 0 →
    ia.iaMode &&& S_ISGID = 0
  killSetid : Chown inode req → ia.iaValid &&& ATTR_MODE = 0 →
    ia.iaValid &&& ATTR_KILL_SUID ≠ 0 ∧ ia.iaValid &&& ATTR_KILL_SGID ≠ 0
  keeps : req.iaValid &&& ~~~ATTR_MODE &&& ~~~ia.iaValid = 0
  keepsMode : S_ISLNK inode.iMode = false → req.iaValid &&& ATTR_MODE ≠ 0 →
    ia.iaValid &&& ATTR_MODE ≠ 0
  ctime : ia.iaValid &&& ATTR_CTIME ≠ 0
  nonempty : (if S_ISLNK inode.iMode then req.iaValid &&& ~~~ATTR_MODE else req.iaValid) ≠ 0

/-- The attributes `smb_vfs_setattr` passes to `notify_change` for the request `req` on
`inode`: a mode change dropped on a symbolic link, `smb_check_attrs`, then `ATTR_CTIME`. -/
def setattrArgs (inode : Inode) (req : Iattr) : Iattr :=
  let attrs := if S_ISLNK inode.iMode then { req with iaValid := req.iaValid &&& ~~~ATTR_MODE }
    else req
  let attrs := smbCheckAttrs inode attrs
  { attrs with iaValid := attrs.iaValid ||| ATTR_CTIME }

section Bits
variable (inode : Inode) (req : Iattr)

theorem chown_setattr :
    Chown inode (if S_ISLNK inode.iMode then { req with iaValid := req.iaValid &&& ~~~ATTR_MODE }
      else req) ↔ Chown inode req := by
  split_ifs <;> simp [chown_dropMode]

/-- The mode change survives the symlink test. -/
def modeKept : Bool := req.iaValid.getLsbD 0 && !S_ISLNK inode.iMode

theorem setattrArgs_valid {i : Nat} (hi : i < 32) :
    (setattrArgs inode req).iaValid.getLsbD i =
      ((req.iaValid.getLsbD i && !(S_ISLNK inode.iMode && decide (i = 0))) || decide (i = 6) ||
        (decide (Chown inode req) &&
          (decide (i = 14) || !modeKept inode req && (decide (i = 11) || decide (i = 12))))) := by
  simp only [setattrArgs, smbCheckAttrs_iaValid, chown_setattr, modeKept]
  split_ifs <;> simp_all [ATTR_MODE, ATTR_KILL_PRIV, ATTR_KILL_SUID, ATTR_KILL_SGID, ATTR_CTIME, BitVec.getLsbD_twoPow, hi, @eq_comm Nat i, Bool.or_comm, Bool.or_left_comm, Bool.or_assoc] 

theorem setattrArgs_mode {i : Nat} (hi : i < 16) :
    (setattrArgs inode req).iaMode.getLsbD i =
      if modeKept inode req then
        if i < 12 then
          req.iaMode.getLsbD i &&
            !(decide (Chown inode req) && (decide (i = 11) || req.iaMode.getLsbD 3 && decide (i = 10)))
        else inode.iMode.getLsbD i
      else req.iaMode.getLsbD i := by
  simp only [setattrArgs, smbCheckAttrs_iaMode, chown_setattr, modeKept]
  rcases Nat.lt_or_ge i 12 with h | h
  · split_ifs <;> simp_all [ATTR_MODE, S_IXGRP_eq, S_ISUID_eq, S_ISGID_eq,
      BitVec.getLsbD_twoPow, S_IALLUGO_getLsbD, @eq_comm Nat i, Bool.and_assoc]
  · have h10 : (10 = i) = False := eq_false (by omega)
    have h11 : (11 = i) = False := eq_false (by omega)
    split_ifs <;> simp_all [ATTR_MODE, S_IXGRP_eq, S_ISUID_eq, S_ISGID_eq,
      BitVec.getLsbD_twoPow, S_IALLUGO_getLsbD, Nat.not_lt.2 h]

theorem setattrArgs_hasMode :
    (setattrArgs inode req).iaValid &&& ATTR_MODE ≠ 0 ↔ modeKept inode req = true := by
  simp only [ATTR_MODE, ne_eq, BitVec.ofNat_eq_ofNat, and_twoPow_eq_zero _ (by decide : 0 < 32),
    setattrArgs_valid _ _ (by decide : 0 < 32)]
  simp [modeKept]

end Bits

theorem setattrArgs_sanitized (inode : Inode) (req : Iattr)
    (hne : (if S_ISLNK inode.iMode then req.iaValid &&& ~~~ATTR_MODE else req.iaValid) ≠ 0) :
    Sanitized inode req (setattrArgs inode req) where
  modeType h := by
    rw [setattrArgs_hasMode] at h
    refine BitVec.eq_of_getLsbD_eq fun ⟨i, hi⟩ => ?_
    by_cases h12 : i < 12 <;>
      simp [setattrArgs_mode _ _ hi, h, h12, S_IFMT_eq, S_IALLUGO_getLsbD, hi]
  modePerm h := by
    rw [setattrArgs_hasMode] at h
    refine BitVec.eq_of_getLsbD_eq fun ⟨i, hi⟩ => ?_
    rcases (show i = 10 ∨ i = 11 ∨ i ≠ 10 ∧ i ≠ 11 by omega) with rfl | rfl | ⟨h10, h11⟩
    · simp [S_IALLUGO_getLsbD, S_ISUID_eq, S_ISGID_eq, BitVec.getLsbD_twoPow]
    · simp [S_IALLUGO_getLsbD, S_ISUID_eq, S_ISGID_eq, BitVec.getLsbD_twoPow]
    · by_cases h12 : i < 12 <;>
        simp [setattrArgs_mode _ _ hi, h, h12, S_IALLUGO_getLsbD, S_ISUID_eq, S_ISGID_eq, hi,
          BitVec.getLsbD_twoPow, h10, h11, Ne.symm h10, Ne.symm h11]
  modeSuid h hc := by
    rw [setattrArgs_hasMode] at h
    rw [S_ISUID_eq, and_twoPow_eq_and_twoPow (by decide), setattrArgs_mode _ _ (by decide)]
    simp [h, hc]
  modeSgid h hc := by
    rw [setattrArgs_hasMode] at h
    simp only [S_IXGRP_eq, BitVec.ofNat_eq_ofNat, and_twoPow_eq_zero _ (by decide : 3 < 16)] at hc
    rw [S_ISGID_eq, and_twoPow_eq_and_twoPow (by decide), setattrArgs_mode _ _ (by decide)]
    by_cases hC : Chown inode req <;> simp_all
  symlink h := by
    simp only [ATTR_MODE, BitVec.ofNat_eq_ofNat, and_twoPow_eq_zero _ (by decide : 0 < 32),
      setattrArgs_valid _ _ (by decide : 0 < 32)]
    simp [h]
  killPriv h := by
    simp only [ATTR_KILL_PRIV, ne_eq, BitVec.ofNat_eq_ofNat,
      and_twoPow_eq_zero _ (by decide : 14 < 32), setattrArgs_valid _ _ (by decide : 14 < 32)]
    simp [h]
  killSuid h hm := by
    rw [setattrArgs_hasMode] at hm
    simp only [S_ISUID_eq, BitVec.ofNat_eq_ofNat, and_twoPow_eq_zero _ (by decide : 11 < 16),
      setattrArgs_mode _ _ (by decide : 11 < 16)]
    simp [h, hm]
  killSgid h hm hx := by
    rw [setattrArgs_hasMode] at hm
    simp only [S_IXGRP_eq, S_ISGID_eq, ne_eq, BitVec.ofNat_eq_ofNat,
      and_twoPow_eq_zero _ (by decide : 3 < 16), and_twoPow_eq_zero _ (by decide : 10 < 16),
      setattrArgs_mode _ _ (by decide : 3 < 16), setattrArgs_mode _ _ (by decide : 10 < 16)] at hx ⊢
    simp_all
  killSetid h hm := by
    have hk : modeKept inode req = false := by
      rw [← Bool.not_eq_true, ← setattrArgs_hasMode, not_not]
      exact hm
    simp only [ATTR_KILL_SUID, ATTR_KILL_SGID, ne_eq, BitVec.ofNat_eq_ofNat,
      and_twoPow_eq_zero _ (by decide : 11 < 32), and_twoPow_eq_zero _ (by decide : 12 < 32),
      setattrArgs_valid _ _ (by decide : 11 < 32), setattrArgs_valid _ _ (by decide : 12 < 32)]
    simp [h, hk]
  keeps := by
    refine BitVec.eq_of_getLsbD_eq fun ⟨i, hi⟩ => ?_
    rcases Nat.eq_zero_or_pos i with rfl | h0
    · simp [ATTR_MODE, BitVec.getLsbD_twoPow]
    · simp +contextual [setattrArgs_valid _ _ hi, ATTR_MODE, BitVec.getLsbD_twoPow, hi,
        Nat.ne_of_lt h0, h0.ne']
  keepsMode h hm := by
    simp only [ATTR_MODE, ne_eq, BitVec.ofNat_eq_ofNat, and_twoPow_eq_zero _ (by decide : 0 < 32)]
      at hm
    rw [setattrArgs_hasMode]
    simp_all [modeKept]
  ctime := by
    simp only [ATTR_CTIME, ne_eq, BitVec.ofNat_eq_ofNat, and_twoPow_eq_zero _ (by decide : 6 < 32),
      setattrArgs_valid _ _ (by decide : 6 < 32)]
    simp
  nonempty := hne

/-! ## Every `notify_change` call -/

/-- The dentry and attributes of a `notify_change` call. -/
def Op.notifyArg : Op → List (Dentry × Iattr)
  | .notifyChange dentry attrs => [(dentry, attrs)]
  | _ => []

/-- What the monitor of `notify_change` collects from a call. -/
def Ev.notified (e : Ev) : List (Dentry × Iattr) := e.1.notifyArg

/-- The constraint on answers used here: each read of `d_inode` gives the dentry's inode in
`inodeOf`. -/
def inodeA (inodeOf : Dentry → Inode) : (o : Op) → o.Res → Prop
  | .dInode d, r => r = inodeOf d
  | _, _ => True

@[simp] theorem inodeA_dInode (inodeOf : Dentry → Inode) (d : Dentry) (r : Inode) :
    inodeA inodeOf (.dInode d) r ↔ r = inodeOf d := Iff.rfl

theorem inodeA_answer (b : Backend) (o : Op) :
    inodeA (fun d => b.answer (.dInode d)) o (b.answer o) := by
  cases o <;> trivial

section Notified
open Prog
variable {A : (o : Op) → o.Res → Prop} {P : Dentry × Iattr → Prop} {s : List (Dentry × Iattr)}

theorem smbVfsSetattrNotify_notified (dentry : Dentry) (ino : Nat) (attrs : Iattr) (u : Bool)
    (hs : ∀ x ∈ s, P x) (h : P (dentry, { attrs with iaValid := attrs.iaValid ||| ATTR_CTIME })) :
    (smbVfsSetattrNotify dentry ino attrs u).Wp A (record Ev.notified) s
      fun _ s' => ∀ x ∈ s', P x := by
  cases u <;>
  simp only [smbVfsSetattrNotify, bind_eq, pure_eq, invoke_bind, call_bind, ret_bind, wp_call,
    wp_ite, wp_bind, wp_ret, record_eq, Ev.notified, Op.notifyArg, List.append_nil, Option.some.injEq,
    exists_eq_left', List.forall_mem_append, List.forall_mem_singleton, eq_true hs, h, implies_true,
    and_self, true_and]

theorem smbVfsSetattrSize_notified (dentry : Dentry) (inode : Inode) (attrs : Iattr)
    (hs : ∀ x ∈ s, P x) (h : P (dentry, { attrs with iaValid := attrs.iaValid ||| ATTR_CTIME })) :
    (smbVfsSetattrSize dentry inode attrs).Wp A (record Ev.notified) s
      fun _ s' => ∀ x ∈ s', P x := by
  simp only [smbVfsSetattrSize, bind_eq, pure_eq, invoke_bind, call_bind, ret_bind, wp_call,
    wp_ite, wp_ret, record_eq, Ev.notified, Op.notifyArg, List.append_nil, Option.some.injEq, exists_eq_left',
    smbVfsSetattrNotify_notified _ _ _ _ hs h, eq_true hs, implies_true, and_self]

theorem smbVfsSetattrDentry_notified {inodeOf : Dentry → Inode} (dentry : Dentry)
    (req : Iattr) (hs : ∀ x ∈ s, Sanitized (inodeOf x.1) req x.2) :
    (smbVfsSetattrDentry dentry req).Wp (inodeA inodeOf) (record Ev.notified) s
      fun _ s' => ∀ x ∈ s', Sanitized (inodeOf x.1) req x.2 := by
  simp only [smbVfsSetattrDentry, bind_eq, pure_eq, invoke_bind, ret_bind, wp_call, wp_ite, wp_ret,
    record_eq, Ev.notified, Op.notifyArg, List.append_nil, Option.some.injEq, exists_eq_left', inodeA_dInode,
    forall_eq, eq_true hs, implies_true, true_and]
  intro hne
  rw [apply_ite Iattr.iaValid] at hne
  exact smbVfsSetattrSize_notified (P := fun x => Sanitized (inodeOf x.1) req x.2) _ _ _ hs
    (setattrArgs_sanitized _ _ hne)

end Notified

/-- **`notify_change` receives sanitized attributes.**  On every backend, each call of
`notify_change` that `smb_vfs_setattr` makes receives, for the request `attrs`, attributes
sanitized for the inode it read from the dentry. -/
theorem smbVfsSetattr_notifyChange (b : Backend) (name : Option CStr) (fid : Nat)
    (attrs : Iattr) (dentry : Dentry) (ia : Iattr) (r : Int)
    (he : ⟨.notifyChange dentry ia, r⟩ ∈ ((smbVfsSetattr name fid attrs).exec b).2) :
    Sanitized (b.answer (.dInode dentry)) attrs ia := by
  open Prog in
  refine (Wp.record_exec (f := Ev.notified) (P := fun x => Sanitized (b.answer (.dInode x.1)) attrs x.2)
    (inodeA_answer b) ?_) _ he (dentry, ia) (List.mem_singleton_self _)
  cases name with
  | none =>
    simp only [smbVfsSetattr, bind_eq, pure_eq, invoke_bind, wp_call, wp_ret, record_eq, Ev.notified,
      Op.notifyArg, List.nil_append, Option.some.injEq, exists_eq_left',
      forall_res_getIdFromFidtable, smbVfsSetattrDentry_notified, List.not_mem_nil,
      false_implies, implies_true, and_self]
  | some name =>
    simp only [smbVfsSetattr, bind_eq, pure_eq, invoke_bind, call_bind, ret_bind, wp_call, wp_bind,
      wp_ret, record_eq, Ev.notified, Op.notifyArg, List.nil_append, Option.some.injEq,
      exists_eq_left', forall_res_kernPath, List.not_mem_nil, false_implies, implies_true,
      true_and]
    exact fun _ _ => (smbVfsSetattrDentry_notified _ _ (by simp)).mono fun _ _ h _ _ => by
      simpa using h

/-- A set-uid, group-executable regular file of `root`, open as handle 0 at dentry 5. -/
def setuidFile : Inode :=
  { ino := 7, iMode := S_IFREG ||| 0o6755#16, iUid := 0, iGid := 0, iSize := 0, iNlink := 1,
    flcPosix := [] }

/-- A kernel on which handle 0 is that file and every other call succeeds. -/
def setuidKernel : Backend where
  fileInode _ := setuidFile
  outcome
    | .getIdFromFidtable _ => some ⟨⟨0, ⟨0, 5⟩⟩⟩
    | .dInode _ => setuidFile
    | _ => default

/-- Give that file to user 1000 and set its mode to `06755` in one request. -/
def chownReq : Iattr :=
  { iaValid := ATTR_MODE ||| ATTR_UID, iaMode := 0o6755#16, iaUid := 1000, iaGid := 0, iaSize := 0 }

/-- On that kernel the request reaches `notify_change`, with the set-id bits cleared. -/
theorem smbVfsSetattr_notifyChange_chown :
    ⟨.notifyChange 5 (setattrArgs setuidFile chownReq), 0⟩ ∈
        ((smbVfsSetattr none 0 chownReq).exec setuidKernel).2 ∧
      Sanitized (setuidKernel.answer (.dInode 5)) chownReq (setattrArgs setuidFile chownReq) :=
  have he := .tail _ (.tail _ (.tail _ (.head _)))
  ⟨he, smbVfsSetattr_notifyChange setuidKernel none 0 _ 5 _ 0 he⟩

example : (setattrArgs setuidFile chownReq).iaMode = S_IFREG ||| 0o755#16 ∧
    (setattrArgs setuidFile chownReq).iaValid = chownReq.iaValid ||| ATTR_KILL_PRIV ||| ATTR_CTIME := by
  decide

end CifsdVfs

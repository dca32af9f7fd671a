import CifsdVfs.Kernel

/-!
# Running a helper against an arbitrary kernel

A `Backend` answers every kernel call.  Only `posix_lock_file` is not free: its answer is
the kernel's conflict test over the POSIX locks of the file's inode, so that a statement
about the lock gate quantifies over lock tables rather than over verdicts.  Every other
answer, including the inode attributes and the result of each `vfs_*` call, is arbitrary,
so a theorem over all backends covers every outcome of every call.

`Prog.exec` runs a helper and records the trace of calls with their answers.  The trace
is read two ways: by the order of the calls in it (lock probes, lease breaks, backend
mutations), and by `Ledger`, which follows the resources each call takes and releases;
`Ledger.guard` also checks that each call is made holding the locks it needs.
-/

namespace CifsdVfs

/-- A kernel call together with the value it returned. -/
abbrev Ev := Σ o : Op, o.Res

/-! ## POSIX lock conflicts -/

/-- The kernel's `posix_locks_conflict(caller, sys)`: a lock of another owner whose range
meets the caller's, where one of the two is a write lock. -/
def posixLocksConflict (caller sys : FileLock) : Bool :=
  caller.flOwner != sys.flOwner &&
    (decide (sys.flStart ≤ caller.flEnd) && decide (caller.flStart ≤ sys.flEnd)) &&
    (sys.flType == .wrlck || caller.flType == .wrlck)

/-- `posix_lock_file` on an `FL_ACCESS` request without `FL_SLEEP`: `-EAGAIN` when a lock on
the inode conflicts with the request, else `0`; nothing is taken either way. -/
def posixLockFile (locks : List FileLock) (fl : FileLock) : Int :=
  if locks.any (posixLocksConflict fl) then -EAGAIN else 0

/-! ## Backends and traces -/

/-- A kernel: the inode of each open file, and the outcome of every other call. -/
structure Backend where
  fileInode : Filp → Inode
  outcome : (o : Op) → o.Res

/-- The answer of a backend to one call. -/
def Backend.answer (b : Backend) : (o : Op) → o.Res
  | .fileInode filp => b.fileInode filp
  | .posixLockFile filp fl => posixLockFile (b.fileInode filp).flcPosix fl
  | o => b.outcome o

@[simp] theorem Backend.answer_fileInode (b : Backend) (filp : Filp) :
    b.answer (.fileInode filp) = b.fileInode filp := rfl
@[simp] theorem Backend.answer_posixLockFile (b : Backend) (filp : Filp) (fl : FileLock) :
    b.answer (.posixLockFile filp fl) = posixLockFile (b.fileInode filp).flcPosix fl := rfl

namespace Prog
variable {α β : Type}

/-- Run a helper against a backend: its result and the calls it made, in order. -/
def exec (b : Backend) : Prog α → α × List Ev
  | .ret a => (a, [])
  | .call o k => let r := b.answer o; ((k r).exec b).map id (⟨o, r⟩ :: ·)

@[simp] theorem exec_ret (b : Backend) (a : α) : (Prog.ret a).exec b = (a, []) := rfl
@[simp] theorem exec_call (b : Backend) (o : Op) (k : o.Res → Prog α) :
    (Prog.call o k).exec b =
      (((k (b.answer o)).exec b).1, ⟨o, b.answer o⟩ :: ((k (b.answer o)).exec b).2) := rfl

theorem exec_bind (b : Backend) (p : Prog α) (f : α → Prog β) :
    (p.bind f).exec b =
      (((f (p.exec b).1).exec b).1, (p.exec b).2 ++ ((f (p.exec b).1).exec b).2) := by
  induction p with
  | ret a => rfl
  | call o k ih => simp [ih]

/-- `p.Wp A step s Q`: on every run of `p` whose answers satisfy `A`, the monitor `step`
accepts each call, starting from `s`, and `Q` holds of the result and the monitor's last
state.  A backend whose answers satisfy `A` runs `p` that way (`Wp.exec`). -/
def Wp {σ : Type} (A : (o : Op) → o.Res → Prop) (step : σ → Ev → Option σ) :
    Prog α → σ → (α → σ → Prop) → Prop
  | .ret a, s, Q => Q a s
  | .call o k, s, Q => ∀ r, A o r →
    match step s ⟨o, r⟩ with
    | some s' => (k r).Wp A step s' Q
    | none => False

section Wp
variable {σ : Type} {A : (o : Op) → o.Res → Prop} {step : σ → Ev → Option σ}

@[simp] theorem wp_ret (a : α) (s : σ) (Q : α → σ → Prop) : (Prog.ret a).Wp A step s Q ↔ Q a s :=
  Iff.rfl

theorem wp_call (o : Op) (k : o.Res → Prog α) (s : σ) (Q : α → σ → Prop) :
    (Prog.call o k).Wp A step s Q ↔
      ∀ r, A o r → ∃ s', step s ⟨o, r⟩ = some s' ∧ (k r).Wp A step s' Q := by
  simp only [Wp]
  refine forall_congr' fun r => imp_congr_right fun _ => ?_
  cases step s ⟨o, r⟩ <;> simp

@[simp] theorem wp_ite (c : Prop) [Decidable c] (p q : Prog α) (s : σ) (Q : α → σ → Prop) :
    (if c then p else q).Wp A step s Q ↔ (c → p.Wp A step s Q) ∧ (¬c → q.Wp A step s Q) := by
  split_ifs with h <;> simp [h]

theorem wp_bind (p : Prog α) (f : α → Prog β) (s : σ) (Q : β → σ → Prop) :
    (p.bind f).Wp A step s Q ↔ p.Wp A step s fun a s' => (f a).Wp A step s' Q := by
  induction p generalizing s with
  | ret a => rfl
  | call o k ih => simp only [call_bind, wp_call, ih]

theorem Wp.mono {p : Prog α} {s : σ} {Q Q' : α → σ → Prop} (h : p.Wp A step s Q)
    (hQ : ∀ a s', Q a s' → Q' a s') : p.Wp A step s Q' := by
  induction p generalizing s with
  | ret a => exact hQ a s h
  | call o k ih =>
    rw [wp_call] at h ⊢
    intro r hr
    obtain ⟨s', hs, hk⟩ := h r hr
    exact ⟨s', hs, ih r hk⟩

/-- A backend whose answers satisfy `A` runs `p` as `Wp` promises. -/
theorem Wp.exec {b : Backend} (hA : ∀ o, A o (b.answer o)) {p : Prog α} {s : σ}
    {Q : α → σ → Prop} (h : p.Wp A step s Q) :
    ∃ s', (p.exec b).2.foldlM step s = some s' ∧ Q (p.exec b).1 s' := by
  induction p generalizing s with
  | ret a => exact ⟨s, rfl, h⟩
  | call o k ih =>
    obtain ⟨s', hs, hk⟩ := (wp_call o k s Q).1 h _ (hA o)
    obtain ⟨s'', hrun, hQ⟩ := ih _ hk
    exact ⟨s'', by simp [hs, hrun], hQ⟩

/-- Constraining the answers further keeps every `Wp`: there are fewer runs to follow. -/
theorem Wp.of_answers {A' : (o : Op) → o.Res → Prop} (hA : ∀ o r, A' o r → A o r) {p : Prog α}
    {s : σ} {Q : α → σ → Prop} (h : p.Wp A step s Q) : p.Wp A' step s Q := by
  induction p generalizing s with
  | ret a => exact h
  | call o k ih =>
    rw [wp_call] at h ⊢
    intro r hr
    obtain ⟨s', hs, hk⟩ := h r (hA o r hr)
    exact ⟨s', hs, ih r hk⟩

end Wp

end Prog

/-! ## Recording calls

The monitor `record f` accepts every call and collects what `f` extracts from it.  A `Wp`
over it states a property of what a run does, such as one of every argument a given kernel
function receives. -/

/-- Append what `f` extracts from the call `e`. -/
def record {β : Type} (f : Ev → List β) (s : List β) (e : Ev) : Option (List β) :=
  some (s ++ f e)

@[simp] theorem record_eq {β : Type} (f : Ev → List β) (s : List β) (e : Ev) :
    record f s e = some (s ++ f e) := rfl

theorem foldlM_record {β : Type} (f : Ev → List β) (t : List Ev) (s : List β) :
    t.foldlM (record f) s = some (s ++ t.flatMap f) := by
  induction t generalizing s with
  | nil => simp
  | cons e t ih => simp [ih]

/-- On a backend whose answers satisfy `A`, everything `f` extracts from the calls of the run
satisfies `P`, when `Wp` says so of the collected list. -/
theorem Prog.Wp.record_exec {α β : Type} {A : (o : Op) → o.Res → Prop} {b : Backend}
    (hA : ∀ o, A o (b.answer o)) {f : Ev → List β} {P : β → Prop} {p : Prog α}
    (h : p.Wp A (record f) [] fun _ s => ∀ x ∈ s, P x) : ∀ e ∈ (p.exec b).2, ∀ x ∈ f e, P x := by
  obtain ⟨s, hs, hP⟩ := Wp.exec hA h
  rw [foldlM_record, Option.some.injEq] at hs
  subst hs
  exact fun e he x hx => hP x (List.mem_append_right _ (List.mem_flatMap.2 ⟨e, he, hx⟩))

/-! ## Resources -/

/-- What a helper can hold between two calls: path and dentry references, mutexes, the
rename lock, write access to an inode, mount write access, a `vmalloc` buffer, a file's
`f_lock`. -/
inductive Res where
  | path (p : Path)
  | dentry (d : Dentry)
  | mutex (m : Mutex)
  | renameLock (p1 p2 : Dentry)
  | writeAccess (ino : Nat)
  | mntWrite (mnt : Nat)
  | vmalloc (buf : Nat)
  | fLock (filp : Nat)
  deriving DecidableEq, Repr

/-- The resources a call takes, in the order it takes them: `kern_path_create` looks up the
parent, takes write access to its mount, locks the parent and looks up the new dentry, and
`done_path_create` gives them back in the reverse order.  A failed `kern_path`,
`lookup_one_len`, `get_write_access` or `vmalloc` takes nothing. -/
def Ev.acquires : Ev → List Res
  | ⟨.kernPath _ _, .ok p⟩ => [.path p]
  | ⟨.kernPathCreate _ _, .ok (p, d)⟩ =>
    [.path p, .mntWrite p.mnt, .mutex (.iMutex p.dentry), .dentry d]
  | ⟨.lookupOneLen _ _, .ok d⟩ => [.dentry d]
  | ⟨.dget d, _⟩ => [.dentry d]
  | ⟨.mutexLock m, _⟩ => [.mutex m]
  | ⟨.lockRename p1 p2, _⟩ => [.renameLock p1 p2]
  | ⟨.getWriteAccess ino, r⟩ => if r = 0 then [.writeAccess ino] else []
  | ⟨.vmalloc _, some buf⟩ => [.vmalloc buf]
  | ⟨.spinLock filp, _⟩ => [.fLock filp.id]
  | _ => []

/-- The resources a call gives back, in the order it gives them back. -/
def Ev.releases : Ev → List Res
  | ⟨.pathPut p, _⟩ => [.path p]
  | ⟨.donePathCreate p d, _⟩ => [.dentry d, .mutex (.iMutex p.dentry), .mntWrite p.mnt, .path p]
  | ⟨.dput d, _⟩ => [.dentry d]
  | ⟨.mutexUnlock m, _⟩ => [.mutex m]
  | ⟨.unlockRename p1 p2, _⟩ => [.renameLock p1 p2]
  | ⟨.putWriteAccess ino, _⟩ => [.writeAccess ino]
  | ⟨.vfree buf, _⟩ => [.vmalloc buf]
  | ⟨.spinUnlock filp, _⟩ => [.fLock filp.id]
  | _ => []

/-- The address limit a call leaves, from the limit before it. -/
def Ev.fs (fs : MmSegment) : Ev → MmSegment
  | ⟨.setFs seg, _⟩ => seg
  | _ => fs

/-- Give back `rs` in order, each from the top of the stack `held`. -/
def popAll : List Res → List Res → Option (List Res)
  | [], held => some held
  | r :: rs, r' :: held => if r = r' then popAll rs held else none
  | _ :: _, [] => none

/-- What a helper holds: a stack of resources, the last taken on top, and the address limit.
Releasing in the reverse order of taking is the discipline every helper follows; it implies
that each resource is given back exactly once. -/
structure Ledger where
  held : List Res
  fs : MmSegment
  deriving DecidableEq, Repr

/-- One call: push what it takes, then pop what it gives back; `none` when it gives back
something that is not on top. -/
def Ledger.step (l : Ledger) (e : Ev) : Option Ledger :=
  (popAll e.releases (e.acquires.reverse ++ l.held)).map fun held => ⟨held, e.fs l.fs⟩

/-- The ledger after a trace. -/
def Ledger.run (l : Ledger) (t : List Ev) : Option Ledger := t.foldlM Ledger.step l

@[simp] theorem Ledger.run_nil (l : Ledger) : l.run [] = some l := rfl
@[simp] theorem Ledger.run_cons (l : Ledger) (e : Ev) (t : List Ev) :
    l.run (e :: t) = (l.step e).bind fun l' => l'.run t := rfl

theorem Ledger.run_append (l : Ledger) (t t' : List Ev) :
    l.run (t ++ t') = (l.run t).bind fun l' => l'.run t' := by
  induction t generalizing l with
  | nil => rfl
  | cons e t ih =>
    simp only [List.cons_append, run_cons, ih]
    cases l.step e <;> rfl

/-! The ledger effect of each call, as simp lemmas.  Calls that neither take nor release
anything are recognised by `Op.touchesLedger`, which is reducible so that `rfl` decides it. -/

/-- The calls that take or release a resource or set the address limit. -/
@[reducible] def Op.touchesLedger : Op → Bool
  | .kernPath .. | .kernPathCreate .. | .lookupOneLen .. | .dget _ | .mutexLock _
  | .lockRename .. | .getWriteAccess _ | .vmalloc _ | .spinLock _ | .pathPut _
  | .donePathCreate .. | .dput _ | .mutexUnlock _ | .unlockRename .. | .putWriteAccess _
  | .vfree _ | .spinUnlock _ | .setFs _ => true
  | _ => false

namespace Ledger
variable (l : Ledger)

theorem step_untouched {o : Op} (h : o.touchesLedger = false) (r : o.Res) :
    l.step ⟨o, r⟩ = some l := by
  cases o <;> first | rfl | cases h

@[simp] theorem step_kernPath_ok (name : CStr) (flags : Nat) (p : Path) :
    l.step ⟨.kernPath name flags, .ok p⟩ = some ⟨.path p :: l.held, l.fs⟩ := rfl
@[simp] theorem step_kernPath_error (name : CStr) (flags : Nat) (e : Int) :
    l.step ⟨.kernPath name flags, .error e⟩ = some l := rfl
@[simp] theorem step_kernPathCreate_ok (name : CStr) (flags : Nat) (p : Path) (d : Dentry) :
    l.step ⟨.kernPathCreate name flags, .ok (p, d)⟩ =
      some ⟨.dentry d :: .mutex (.iMutex p.dentry) :: .mntWrite p.mnt :: .path p :: l.held, l.fs⟩ :=
  rfl
@[simp] theorem step_kernPathCreate_error (name : CStr) (flags : Nat) (e : Int) :
    l.step ⟨.kernPathCreate name flags, .error e⟩ = some l := rfl
@[simp] theorem step_lookupOneLen_ok (name : CStr) (base d : Dentry) :
    l.step ⟨.lookupOneLen name base, .ok d⟩ = some ⟨.dentry d :: l.held, l.fs⟩ := rfl
@[simp] theorem step_lookupOneLen_error (name : CStr) (base : Dentry) (e : Int) :
    l.step ⟨.lookupOneLen name base, .error e⟩ = some l := rfl
@[simp] theorem step_dget (d : Dentry) (u : Unit) :
    l.step ⟨.dget d, u⟩ = some ⟨.dentry d :: l.held, l.fs⟩ := rfl
@[simp] theorem step_mutexLock (m : Mutex) (u : Unit) :
    l.step ⟨.mutexLock m, u⟩ = some ⟨.mutex m :: l.held, l.fs⟩ := rfl
@[simp] theorem step_lockRename (p1 p2 : Dentry) (trap : Option Dentry) :
    l.step ⟨.lockRename p1 p2, trap⟩ = some ⟨.renameLock p1 p2 :: l.held, l.fs⟩ := rfl
@[simp] theorem step_getWriteAccess (ino : Nat) (r : Int) :
    l.step ⟨.getWriteAccess ino, r⟩ =
      some ⟨if r = 0 then .writeAccess ino :: l.held else l.held, l.fs⟩ := by
  by_cases h : r = 0 <;> simp [step, Ev.acquires, Ev.releases, Ev.fs, popAll, h]
@[simp] theorem step_vmalloc_some (size buf : Nat) :
    l.step ⟨.vmalloc size, some buf⟩ = some ⟨.vmalloc buf :: l.held, l.fs⟩ := rfl
@[simp] theorem step_vmalloc_none (size : Nat) : l.step ⟨.vmalloc size, none⟩ = some l := rfl
@[simp] theorem step_spinLock (filp : Filp) (u : Unit) :
    l.step ⟨.spinLock filp, u⟩ = some ⟨.fLock filp.id :: l.held, l.fs⟩ := rfl
@[simp] theorem step_pathPut (p : Path) (u : Unit) :
    l.step ⟨.pathPut p, u⟩ = (popAll [.path p] l.held).map (⟨·, l.fs⟩) := rfl
@[simp] theorem step_donePathCreate (p : Path) (d : Dentry) (u : Unit) :
    l.step ⟨.donePathCreate p d, u⟩ =
      (popAll [.dentry d, .mutex (.iMutex p.dentry), .mntWrite p.mnt, .path p] l.held).map
        (⟨·, l.fs⟩) := rfl
@[simp] theorem step_dput (d : Dentry) (u : Unit) :
    l.step ⟨.dput d, u⟩ = (popAll [.dentry d] l.held).map (⟨·, l.fs⟩) := rfl
@[simp] theorem step_mutexUnlock (m : Mutex) (u : Unit) :
    l.step ⟨.mutexUnlock m, u⟩ = (popAll [.mutex m] l.held).map (⟨·, l.fs⟩) := rfl
@[simp] theorem step_unlockRename (p1 p2 : Dentry) (u : Unit) :
    l.step ⟨.unlockRename p1 p2, u⟩ = (popAll [.renameLock p1 p2] l.held).map (⟨·, l.fs⟩) := rfl
@[simp] theorem step_putWriteAccess (ino : Nat) (u : Unit) :
    l.step ⟨.putWriteAccess ino, u⟩ = (popAll [.writeAccess ino] l.held).map (⟨·, l.fs⟩) := rfl
@[simp] theorem step_vfree (buf : Nat) (u : Unit) :
    l.step ⟨.vfree buf, u⟩ = (popAll [.vmalloc buf] l.held).map (⟨·, l.fs⟩) := rfl
@[simp] theorem step_spinUnlock (filp : Filp) (u : Unit) :
    l.step ⟨.spinUnlock filp, u⟩ = (popAll [.fLock filp.id] l.held).map (⟨·, l.fs⟩) := rfl
@[simp] theorem step_setFs (seg : MmSegment) (u : Unit) :
    l.step ⟨.setFs seg, u⟩ = some ⟨l.held, seg⟩ := rfl

@[simp] theorem popAll_nil (held : List Res) : popAll [] held = some held := rfl
@[simp] theorem popAll_cons_self (r : Res) (rs held : List Res) :
    popAll (r :: rs) (r :: held) = popAll rs held := by simp [popAll]

end Ledger

/-! ## Exactly once

A run the ledger accepts gives back each resource as many times as it took it, less what is
still held at the end: nothing is released twice, or released without having been taken. -/

theorem popAll_count {rs held held' : List Res} (h : popAll rs held = some held') (r : Res) :
    held'.count r + rs.count r = held.count r := by
  induction rs generalizing held with
  | nil => cases h; simp
  | cons x rs ih =>
    cases held with
    | nil => cases h
    | cons y held =>
      simp only [popAll] at h
      split_ifs at h with hxy
      subst hxy
      have := ih h
      simp only [List.count_cons]
      omega

theorem Ledger.step_count {l l' : Ledger} {e : Ev} (h : l.step e = some l') (r : Res) :
    l'.held.count r + e.releases.count r = l.held.count r + e.acquires.count r := by
  obtain ⟨held, hpop, rfl⟩ := Option.map_eq_some'.1 h
  rw [popAll_count hpop, List.count_append, List.count_reverse, Nat.add_comm]

theorem Ledger.run_count {l l' : Ledger} {t : List Ev} (h : l.run t = some l') (r : Res) :
    l'.held.count r + (t.flatMap Ev.releases).count r =
      l.held.count r + (t.flatMap Ev.acquires).count r := by
  induction t generalizing l with
  | nil => cases h; simp
  | cons e t ih =>
    obtain ⟨l₁, h₁, h₂⟩ := Option.bind_eq_some.1 h
    have := ih h₂
    have := step_count h₁ r
    simp only [List.flatMap_cons, List.count_append]
    omega

/-- **A balanced trace.** Started with nothing held and the address limit `fs`, every
release matches the resource on top, the trace ends holding exactly `kept`, and the limit
is `fs` again. -/
def Ledger.Balanced (fs : MmSegment) (t : List Ev) (kept : List Res) : Prop :=
  Ledger.run ⟨[], fs⟩ t = some ⟨kept, fs⟩

/-- The constraints on answers the ledger relies on, which hold in a sequential run: `get_fs`
returns the limit `fs0` the helper was entered with, and every read of `d_parent` returns
the dentry's parent in `parent`, which nothing in the helper changes before it is read. -/
def ledgerA (fs0 : MmSegment) (parent : Dentry → Dentry) : (o : Op) → o.Res → Prop
  | .getFs, r => r = fs0
  | .dParent d, r => r = parent d
  | _, _ => True

/-- In a balanced trace each resource is taken as many times as it is given back, plus the
times it is kept. -/
theorem Ledger.Balanced.count {fs : MmSegment} {t : List Ev} {kept : List Res}
    (h : Ledger.Balanced fs t kept) (r : Res) :
    (t.flatMap Ev.acquires).count r = (t.flatMap Ev.releases).count r + kept.count r := by
  have := Ledger.run_count h r
  simp only [List.count_nil] at this
  omega

section LedgerA
variable (fs0 : MmSegment) (parent : Dentry → Dentry)

@[simp] theorem ledgerA_getFs (r : MmSegment) : ledgerA fs0 parent .getFs r ↔ r = fs0 := Iff.rfl
@[simp] theorem ledgerA_dParent (d r : Dentry) : ledgerA fs0 parent (.dParent d) r ↔ r = parent d :=
  Iff.rfl

/-- A backend answers every `get_fs` and every read of `d_parent` alike. -/
theorem ledgerA_answer (b : Backend) (o : Op) :
    ledgerA (b.answer .getFs) (fun d => b.answer (.dParent d)) o (b.answer o) := by
  cases o <;> trivial

end LedgerA

/-! ## The locks a call is made under

The kernel leaves some locking to its callers.  An entry of a directory is created, linked
or removed under the directory's `i_mutex`, `notify_change` is called under the inode's,
`vfs_rename` under the locks `lock_rename` takes on both parents, and `f_mode` is changed
under the file's `f_lock`; the server breaks level II oplocks under `ofile_list_lock`, which
guards the list of open files the break walks.  `Ledger.guard` is the ledger that first
checks that every lock a call needs is held.  The reads of `d_parent` before the removals are
answered by one parent map, as in `ledgerA`; `lockA` adds that `kern_path_create` hangs the
dentry it returns under the parent it returns, which the parent's `i_mutex` it takes keeps
so. -/

/-- The locks the caller must hold when it makes a call. -/
@[reducible] def Op.needs : Op → List CifsdVfs.Res
  | .vfsCreate dir .. | .vfsMkdir dir .. | .vfsSymlink dir .. | .vfsLink _ dir _
  | .vfsUnlink dir _ | .vfsRmdir dir _ => [.mutex (.iMutex dir)]
  | .notifyChange dentry _ => [.mutex (.iMutex dentry)]
  | .vfsRename oldDir _ newDir _ => [.renameLock oldDir newDir]
  | .setFModeRandom filp _ => [.fLock filp.id]
  | .smbBreakIIOplock _ => [.mutex .ofileListLock]
  | _ => []

/-- The ledger, refusing a call made without a lock it needs. -/
def Ledger.guard (l : Ledger) (e : Ev) : Option Ledger :=
  if ∀ x ∈ e.1.needs, x ∈ l.held then l.step e else none

theorem Ledger.guard_of_needs (l : Ledger) {o : Op} (r : o.Res) (h : ∀ x ∈ o.needs, x ∈ l.held) :
    l.guard ⟨o, r⟩ = l.step ⟨o, r⟩ := if_pos h

/-- The answers of a sequential run, as in `ledgerA`, on which `kern_path_create` hangs its
dentry under its parent. -/
def lockA (fs0 : MmSegment) (parent : Dentry → Dentry) (o : Op) (r : o.Res) : Prop :=
  ledgerA fs0 parent o r ∧
    match o, r with
    | .kernPathCreate _ _, .ok (p, d) => parent d = p.dentry
    | _, _ => True

section LockA
variable (fs0 : MmSegment) (parent : Dentry → Dentry)

@[simp] theorem lockA_dParent (d r : Dentry) : lockA fs0 parent (.dParent d) r ↔ r = parent d :=
  and_iff_left trivial
@[simp] theorem lockA_kernPathCreate_ok (name : CStr) (flags : Nat) (p : Path) (d : Dentry) :
    lockA fs0 parent (.kernPathCreate name flags) (.ok (p, d)) ↔ parent d = p.dentry :=
  and_iff_right trivial

/-- A backend answers every `get_fs` alike and hangs what `kern_path_create` returns under
its parent. -/
theorem lockA_answer (b : Backend)
    (hb : ∀ name flags p d, b.answer (.kernPathCreate name flags) = .ok (p, d) →
      b.answer (.dParent d) = p.dentry) (o : Op) :
    lockA (b.answer .getFs) (fun d => b.answer (.dParent d)) o (b.answer o) := by
  refine ⟨ledgerA_answer b o, ?_⟩
  cases o <;> try trivial
  case kernPathCreate name flags =>
    generalize hr : b.answer (.kernPathCreate name flags) = r
    rcases r with _ | ⟨p, d⟩
    exacts [trivial, hb name flags p d hr]

end LockA

/-! ## Mutations -/

/-- The calls that change the file system or its contents: creating, writing, truncating,
changing attributes or extended attributes, linking, unlinking, renaming, locking. -/
@[reducible] def Op.mutates : Op → Bool
  | .vfsCreate .. | .vfsMkdir .. | .vfsWrite .. | .notifyChange .. | .vfsRmdir ..
  | .vfsUnlink .. | .vfsLink .. | .vfsSymlink .. | .vfsRename .. | .vfsTruncate ..
  | .vfsSetxattr .. | .vfsLockFile .. => true
  | _ => false

end CifsdVfs

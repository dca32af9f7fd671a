import CifsdVfs.Kernel
import Mathlib.Dynamics.PeriodicPts

/-!
# The dentry cache

The second meaning of the helpers: run against one filesystem's dentry cache.  A `Dcache` is
the parent map `d_parent` with its root, and whether each dentry is positive.

`Dcache.kernel` says what the kernel may answer to each call and how the cache changes.
`d_parent` and `!d_inode` are read from the cache; `lock_rename` returns the trap as
`fs/namei.c` finds it; `lookup_one_len` and `kern_path_create` hand out a child of their base,
hanging a fresh negative dentry under it when they must; `vfs_rename` either changes nothing or
moves the source as `d_move` does, and creation and removal only make a dentry positive or
negative.  Where the kernel's answer depends on what the model does not follow (the names of the
dentries, permissions, the disk), every answer is allowed, so the kernel is a relation: a path
given to `kern_path` may resolve to any dentry, and every lookup and rename may fail.  Calls
that do not touch the cache change nothing.

`Dcache.WF` is the tree invariant: the root is its own parent and every dentry reaches it, so
no other dentry lies on a cycle (`WF.acyclic`).  Every step but `vfs_rename` keeps it
(`WF.kernel`); a rename keeps it when the source is not above the target's parent and the target
is not above the source's parent (`WF.dMove`).

Programs run against a relational kernel by `Prog.Runs`, and `Prog.WpK` is the predicate
transformer that follows every run; a program that `Prog.Avoids` some calls keeps every
invariant that the other calls keep.
-/

namespace CifsdVfs

/-! ## Runs against a relational kernel -/

/-- A kernel as a relation on states `σ`: from `s`, the call `o` may answer `r` and leave `s'`. -/
abbrev Kernel (σ : Type) := σ → (o : Op) → o.Res → σ → Prop

namespace Prog
variable {σ α β : Type} (K : Kernel σ)

/-- The runs of `p` from `s` against `K`, with the result and the final state. -/
inductive Runs : Prog α → σ → α → σ → Prop
  | ret (a : α) (s : σ) : Runs (.ret a) s a s
  | call {o : Op} {k : o.Res → Prog α} {s s' s'' : σ} {r : o.Res} {a : α} :
      K s o r s' → Runs (k r) s' a s'' → Runs (.call o k) s a s''

/-- Every run of `p` from `s` against `K` ends in a result and a state satisfying `Q`. -/
def WpK : Prog α → σ → (α → σ → Prop) → Prop
  | .ret a, s, Q => Q a s
  | .call o k, s, Q => ∀ r s', K s o r s' → (k r).WpK s' Q

variable {K}

@[simp] theorem wpK_ret (a : α) (s : σ) (Q : α → σ → Prop) : (Prog.ret a).WpK K s Q ↔ Q a s :=
  Iff.rfl

@[simp] theorem wpK_call (o : Op) (k : o.Res → Prog α) (s : σ) (Q : α → σ → Prop) :
    (Prog.call o k).WpK K s Q ↔ ∀ r s', K s o r s' → (k r).WpK K s' Q := Iff.rfl

@[simp] theorem wpK_ite (c : Prop) [Decidable c] (p q : Prog α) (s : σ) (Q : α → σ → Prop) :
    (if c then p else q).WpK K s Q ↔ (c → p.WpK K s Q) ∧ (¬c → q.WpK K s Q) := by
  split_ifs with h <;> simp [h]

theorem wpK_bind (p : Prog α) (f : α → Prog β) (s : σ) (Q : β → σ → Prop) :
    (p.bind f).WpK K s Q ↔ p.WpK K s fun a s' => (f a).WpK K s' Q := by
  induction p generalizing s with
  | ret a => rfl
  | call o k ih => simp only [call_bind, wpK_call, ih]

theorem WpK.mono {p : Prog α} {s : σ} {Q Q' : α → σ → Prop} (h : p.WpK K s Q)
    (hQ : ∀ a s', Q a s' → Q' a s') : p.WpK K s Q' := by
  induction p generalizing s with
  | ret a => exact hQ a s h
  | call o k ih => exact fun r s' hk => ih r (h r s' hk)

/-- `WpK` is sound: every run ends as it promises. -/
theorem WpK.runs {p : Prog α} {s s' : σ} {Q : α → σ → Prop} {a : α} (h : p.WpK K s Q)
    (hr : p.Runs K s a s') : Q a s' := by
  induction hr with
  | ret => exact h
  | call hk _ ih => exact ih (h _ _ hk)

/-! ### Programs that avoid some calls -/

/-- `p` makes none of the calls `bad` picks out, whatever the answers, and ends in `Q`. -/
def Avoids (bad : Op → Bool) : Prog α → (α → Prop) → Prop
  | .ret a, Q => Q a
  | .call o k, Q => bad o = false ∧ ∀ r, (k r).Avoids bad Q

section Avoids
variable (bad : Op → Bool)

@[simp] theorem avoids_ret (a : α) (Q : α → Prop) : (Prog.ret a).Avoids bad Q ↔ Q a := Iff.rfl

@[simp] theorem avoids_call (o : Op) (k : o.Res → Prog α) (Q : α → Prop) :
    (Prog.call o k).Avoids bad Q ↔ bad o = false ∧ ∀ r, (k r).Avoids bad Q := Iff.rfl

@[simp] theorem avoids_ite (c : Prop) [Decidable c] (p q : Prog α) (Q : α → Prop) :
    (if c then p else q).Avoids bad Q ↔ (c → p.Avoids bad Q) ∧ (¬c → q.Avoids bad Q) := by
  split_ifs with h <;> simp [h]

theorem avoids_bind (p : Prog α) (f : α → Prog β) (Q : β → Prop) :
    (p.bind f).Avoids bad Q ↔ p.Avoids bad fun a => (f a).Avoids bad Q := by
  induction p with
  | ret a => rfl
  | call o k ih => simp only [call_bind, avoids_call, ih]

variable {bad}

/-- An invariant that every call but the avoided ones keeps holds at the end of every run. -/
theorem Avoids.wpK {I : σ → Prop} {p : Prog α} {Q : α → Prop} {s : σ} (h : p.Avoids bad Q)
    (hI : ∀ s o r s', bad o = false → I s → K s o r s' → I s') (hs : I s) :
    p.WpK K s fun _ s' => I s' := by
  induction p generalizing s with
  | ret a => exact hs
  | call o k ih => exact fun r s' hk => ih r (h.2 r) (hI s o r s' h.1 hs hk)

end Avoids

end Prog

/-! ## The cache and its tree -/

/-- The dentries of one filesystem. -/
structure Dcache where
  /-- `d_parent`; the root is its own parent. -/
  parent : Dentry → Dentry
  /-- `d_inode != NULL`. -/
  positive : Dentry → Bool
  /-- The root dentry. -/
  root : Dentry

namespace Dcache
variable (c : Dcache)

/-- `a` is `d` or one of its ancestors. -/
def Anc (a d : Dentry) : Prop := ∃ n, c.parent^[n] d = a

/-- The tree invariant: the root is its own parent and every dentry reaches it. -/
structure WF : Prop where
  root_parent : c.parent c.root = c.root
  reach : ∀ d, c.Anc c.root d

variable {c} {a b d x y : Dentry}

theorem Anc.refl (d : Dentry) : c.Anc d d := ⟨0, rfl⟩

theorem anc_parent (d : Dentry) : c.Anc (c.parent d) d := ⟨1, rfl⟩

theorem Anc.trans (hab : c.Anc a b) (hbd : c.Anc b d) : c.Anc a d := by
  obtain ⟨m, rfl⟩ := hab
  obtain ⟨n, rfl⟩ := hbd
  exact ⟨m + n, Function.iterate_add_apply _ _ _ _⟩

/-- One step up from `d` stays below every ancestor of `d`'s parent. -/
theorem Anc.step (h : c.Anc a (c.parent d)) : c.Anc a d := h.trans (anc_parent d)

/-- A proper ancestor of `d` is an ancestor of its parent. -/
theorem Anc.of_ne (h : c.Anc a d) (hne : a ≠ d) : c.Anc a (c.parent d) := by
  obtain ⟨_ | n, rfl⟩ := h
  · exact absurd rfl hne
  · exact ⟨n, (Function.iterate_succ_apply _ _ _).symm⟩

/-- The ancestors of one dentry form a chain. -/
theorem Anc.total (ha : c.Anc a d) (hb : c.Anc b d) : c.Anc a b ∨ c.Anc b a := by
  obtain ⟨m, rfl⟩ := ha
  obtain ⟨n, rfl⟩ := hb
  rcases Nat.le_total m n with h | h
  · exact Or.inr ⟨n - m, by rw [← Function.iterate_add_apply, Nat.sub_add_cancel h]⟩
  · exact Or.inl ⟨m - n, by rw [← Function.iterate_add_apply, Nat.sub_add_cancel h]⟩

/-- A proper ancestor of `d` has a child on the way down to `d`. -/
theorem Anc.exists_child (h : c.Anc a d) (hne : a ≠ d) :
    ∃ t, c.parent t = a ∧ t ≠ a ∧ c.Anc t d := by
  classical
  let m := Nat.find h
  have hm : c.parent^[m] d = a := Nat.find_spec h
  have hm0 : m ≠ 0 := fun h0 => hne (by rw [← hm, h0]; rfl)
  refine ⟨c.parent^[m - 1] d, ?_, fun he => Nat.find_min h (by omega) he, ⟨m - 1, rfl⟩⟩
  rw [← Function.iterate_succ_apply' c.parent, Nat.succ_eq_add_one, Nat.sub_add_cancel
    (Nat.pos_of_ne_zero hm0), hm]

namespace WF
variable (h : c.WF)
include h

/-- The only dentry on a cycle of `d_parent` is the root. -/
theorem acyclic {n : Nat} (hn : 0 < n) (hd : c.parent^[n] d = d) : d = c.root := by
  obtain ⟨m, hm⟩ := h.reach d
  have hp : Function.IsPeriodicPt c.parent (n * m) d :=
    Function.IsPeriodicPt.mul_const (m := n) hd m
  calc d = c.parent^[n * m] d := hp.symm
    _ = c.parent^[n * m - m] (c.parent^[m] d) := by
      rw [← Function.iterate_add_apply, Nat.sub_add_cancel (Nat.le_mul_of_pos_left m hn)]
    _ = c.root := by rw [hm, Function.iterate_fixed h.root_parent]

/-- `IS_ROOT(d)` holds of the root alone. -/
theorem isRoot_iff : c.parent d = d ↔ d = c.root :=
  ⟨fun hd => h.acyclic (n := 1) Nat.one_pos hd, fun hd => hd ▸ h.root_parent⟩

/-- A dentry other than the root is not above its own parent. -/
theorem not_anc_parent (hd : c.parent d ≠ d) : ¬ c.Anc d (c.parent d) := by
  rintro ⟨n, hn⟩
  exact hd ((h.isRoot_iff).2 (h.acyclic (n := n + 1) n.succ_pos hn))

theorem anc_antisymm (hab : c.Anc a b) (hba : c.Anc b a) : a = b := by
  obtain ⟨m, rfl⟩ := hab
  obtain ⟨n, hn⟩ := hba
  rcases Nat.eq_zero_or_pos (m + n) with h0 | hpos
  · obtain ⟨rfl, -⟩ := Nat.add_eq_zero.1 h0; rfl
  · have hr : c.parent^[m] b = c.root :=
      h.acyclic hpos (by rw [Function.iterate_add_apply, hn])
    rw [hr, ← hn, hr, Function.iterate_fixed h.root_parent]

end WF

/-! ## The trap of `lock_rename` -/

/-- `lock_rename(p1, p2)` returns `trap`: when one of the two is a proper ancestor of the other,
its child on the way down to the other (`d_ancestor`), else no trap. -/
def Trap (p1 p2 : Dentry) : Option Dentry → Prop
  | some t => p1 ≠ p2 ∧
      (c.parent t = p2 ∧ t ≠ p2 ∧ c.Anc t p1 ∨ c.parent t = p1 ∧ t ≠ p1 ∧ c.Anc t p2)
  | none => p1 = p2 ∨ ¬ c.Anc p1 p2 ∧ ¬ c.Anc p2 p1

theorem Trap.symm {p1 p2 : Dentry} {r : Option Dentry} (ht : c.Trap p1 p2 r) : c.Trap p2 p1 r := by
  cases r with
  | none => exact ht.imp Eq.symm And.symm
  | some t => exact ⟨Ne.symm ht.1, ht.2.symm⟩

/-- An ancestor of a dentry of a set that `d_parent` maps into itself is in the set. -/
theorem not_anc_of_mapsTo {S : Set Dentry} (hS : Set.MapsTo c.parent S S) (hd : d ∈ S)
    (ha : a ∉ S) : ¬ c.Anc a d := fun ⟨n, hn⟩ => ha (hn ▸ hS.iterate n hd)

/-- Two children of a root are not above one another: `lock_rename` of them has no trap. -/
theorem trap_siblings {r p1 p2 : Dentry} (hr : c.parent r = r) (h1 : c.parent p1 = r)
    (h2 : c.parent p2 = r) (hne : p1 ≠ p2) (hr1 : r ≠ p1) (hr2 : r ≠ p2) : c.Trap p1 p2 none := by
  have hS : ∀ x, c.parent x = r → Set.MapsTo c.parent {r, x} {r, x} := by
    rintro x hx y (rfl | rfl) <;> simp [hr, hx]
  exact Or.inr ⟨not_anc_of_mapsTo (hS p2 h2) (by simp) (by simp [Ne.symm hr1, hne]),
    not_anc_of_mapsTo (hS p1 h1) (by simp) (by simp [Ne.symm hr2, Ne.symm hne])⟩

/-- `lock_rename` always has an answer, on any cache. -/
theorem trap_exists (c : Dcache) (p1 p2 : Dentry) : ∃ r, c.Trap p1 p2 r := by
  by_cases he : p1 = p2
  · exact ⟨none, Or.inl he⟩
  by_cases h21 : c.Anc p2 p1
  · obtain ⟨t, ht, hne, hanc⟩ := h21.exists_child (Ne.symm he)
    exact ⟨some t, he, Or.inl ⟨ht, hne, hanc⟩⟩
  by_cases h12 : c.Anc p1 p2
  · obtain ⟨t, ht, hne, hanc⟩ := h12.exists_child he
    exact ⟨some t, he, Or.inr ⟨ht, hne, hanc⟩⟩
  exact ⟨none, Or.inr ⟨h12, h21⟩⟩

/-- A child `d` of `p1` that is `p2` or above it is the trap. -/
theorem WF.trap_of_child (h : c.WF) {p1 p2 : Dentry} {r : Option Dentry} (ht : c.Trap p1 p2 r)
    (hp : c.parent d = p1) (hd : d ≠ p1) (ha : c.Anc d p2) : r = some d := by
  have h12 : c.Anc p1 p2 := hp ▸ (anc_parent d).trans ha
  have hdp : c.parent d ≠ d := fun he => hd (hp ▸ he.symm)
  cases r with
  | none =>
    rcases ht with rfl | ⟨hn, -⟩
    · exact absurd (hp ▸ ha) (h.not_anc_parent hdp)
    · exact absurd h12 hn
  | some t =>
    obtain ⟨hne, ⟨ht2, htne, htanc⟩ | ⟨ht1, htne, htanc⟩⟩ := ht
    · exact absurd (h.anc_antisymm h12 (ht2 ▸ (anc_parent t).trans htanc)) hne
    · congr 1
      have htp : c.parent t ≠ t := fun he => htne (ht1 ▸ he.symm)
      rcases htanc.total ha with htd | hdt
      · by_contra hne'
        exact h.not_anc_parent htp (ht1 ▸ hp ▸ htd.of_ne hne')
      · by_contra hne'
        exact h.not_anc_parent hdp (hp ▸ ht1 ▸ hdt.of_ne (Ne.symm hne'))

/-- A dentry `d_alloc` may hand out: negative, not a root, and without children. -/
def Fresh (d : Dentry) : Prop :=
  c.positive d = false ∧ c.parent d ≠ d ∧ ∀ x, c.parent x = d → x = d

/-- Hang the fresh dentry `d` under `base`. -/
def attach (d base : Dentry) : Dcache := { c with parent := Function.update c.parent d base }

/-- `d_move(old, new)` for a rename that does not exchange: `old` takes the place of `new`, and
`new`, dropped from the cache, hangs negative under `old`'s former parent. -/
def dMove (old new : Dentry) : Dcache :=
  { c with
    parent := fun x => if x = old then c.parent new else if x = new then c.parent old
      else c.parent x
    positive := fun x => if x = new then false else c.positive x }

/-- Make `d` positive or negative. -/
def setPositive (d : Dentry) (b : Bool) : Dcache :=
  { c with positive := Function.update c.positive d b }

/-- `d` is handed out as a child of `base`, and the cache becomes `c'`: an existing child, or a
fresh dentry hung under `base`. -/
def Alloc (base d : Dentry) (c' : Dcache) : Prop :=
  d ≠ base ∧ (c.parent d = base ∧ c' = c ∨ c.Fresh d ∧ c' = c.attach d base)

/-- `c'` has every positive dentry of `c` where `c` has it: only negative dentries moved. -/
def Keeps (c c' : Dcache) : Prop :=
  c'.positive = c.positive ∧ ∀ x, c.positive x = true → c'.parent x = c.parent x

theorem Keeps.refl (c : Dcache) : c.Keeps c := ⟨rfl, fun _ _ => rfl⟩

theorem Keeps.attach (hf : c.Fresh d) (b : Dentry) : c.Keeps (c.attach d b) :=
  ⟨rfl, fun x hx => Function.update_noteq (fun he => by simp [he, hf.1] at hx) _ _⟩

/-- Two iterations agree as long as the maps agree on the points the first one visits. -/
theorem iterate_congr {f g : Dentry → Dentry} (hfg : ∀ i, g (f^[i] x) = f (f^[i] x)) (n : Nat) :
    g^[n] x = f^[n] x := by
  induction n with
  | zero => rfl
  | succ n ih => rw [Function.iterate_succ_apply', Function.iterate_succ_apply', ih, hfg]

theorem Fresh.not_anc (hf : c.Fresh d) (hy : y ≠ d) : ¬ c.Anc d y := fun ha => by
  obtain ⟨t, ht, hne, -⟩ := ha.exists_child (Ne.symm hy)
  exact hne (hf.2.2 t ht)

/-- A fresh dentry is nobody's parent. -/
theorem Fresh.ne_parent (hf : c.Fresh d) (x : Dentry) : d ≠ c.parent x := fun he => by
  obtain rfl := hf.2.2 x he.symm
  exact hf.2.1 he.symm

/-- Above any dentry but the fresh one, nothing changes when it is hung. -/
theorem attach_anc (hf : c.Fresh d) (hy : y ≠ d) : (c.attach d b).Anc x y ↔ c.Anc x y := by
  have hv : ∀ i, c.parent^[i] y ≠ d := fun i he => hf.not_anc hy ⟨i, he⟩
  have hi := iterate_congr (g := (c.attach d b).parent) (fun i => Function.update_noteq (hv i) _ _)
  simp only [Anc, hi]

theorem WF.attach (h : c.WF) (hf : c.Fresh d) (hb : b ≠ d) : (c.attach d b).WF where
  root_parent := by
    show Function.update c.parent d b c.root = c.root
    rw [Function.update_noteq (fun he => hf.2.1 (by rw [← he]; exact h.root_parent))]
    exact h.root_parent
  reach y := by
    by_cases hy : y = d
    · subst hy
      exact Anc.step (by simpa [Dcache.attach] using (attach_anc hf hb).2 (h.reach b))
    · exact (attach_anc hf hy).2 (h.reach y)

theorem WF.alloc (h : c.WF) {base d : Dentry} {c' : Dcache} (ha : c.Alloc base d c') : c'.WF := by
  obtain ⟨hne, ⟨-, rfl⟩ | ⟨hf, rfl⟩⟩ := ha
  exacts [h, h.attach hf hne.symm]

/-- A lookup hands out a child of its base. -/
theorem Alloc.parent_eq {base d : Dentry} {c' : Dcache} (ha : c.Alloc base d c') :
    c'.parent d = base := by
  obtain ⟨-, ⟨hp, rfl⟩ | ⟨-, rfl⟩⟩ := ha
  exacts [hp, Function.update_same _ _ _]

/-- A lookup moves no positive dentry. -/
theorem Alloc.keeps {base d : Dentry} {c' : Dcache} (ha : c.Alloc base d c') : c.Keeps c' := by
  obtain ⟨-, ⟨-, rfl⟩ | ⟨hf, rfl⟩⟩ := ha
  exacts [Keeps.refl _, Keeps.attach hf base]

/-- A rename keeps the tree when the source is not the root and not above the target's parent,
and the target is not the root and not above the source's parent. -/
theorem WF.dMove (h : c.WF) {old new : Dentry} (ho : c.parent old ≠ old)
    (hn : c.parent new ≠ new) (hon : ¬ c.Anc old (c.parent new))
    (hno : ¬ c.Anc new (c.parent old)) : (c.dMove old new).WF := by
  have hpar : ∀ x, x ≠ old → x ≠ new → (c.dMove old new).parent x = c.parent x :=
    fun x h1 h2 => by simp [Dcache.dMove, h1, h2]
  -- a dentry whose way up avoids both keeps it
  have avoid : ∀ z, (∀ i, c.parent^[i] z ≠ old ∧ c.parent^[i] z ≠ new) →
      (c.dMove old new).Anc c.root z := fun z hz => by
    obtain ⟨n, hn⟩ := h.reach z
    exact ⟨n, by rw [iterate_congr (fun i => hpar _ (hz i).1 (hz i).2), hn]⟩
  have hnew : (c.dMove old new).Anc c.root (c.parent new) := avoid _ fun i =>
    ⟨fun he => hon ⟨i, he⟩, fun he => h.not_anc_parent hn ⟨i, he⟩⟩
  have hold : (c.dMove old new).Anc c.root (c.parent old) := avoid _ fun i =>
    ⟨fun he => h.not_anc_parent ho ⟨i, he⟩, fun he => hno ⟨i, he⟩⟩
  refine ⟨?_, fun x => ?_⟩
  · exact (hpar _ (fun he => ho (he ▸ h.root_parent)) (fun he => hn (he ▸ h.root_parent))).trans
      h.root_parent
  obtain ⟨n, hx⟩ := h.reach x
  induction n generalizing x with
  | zero => exact hx ▸ Anc.refl _
  | succ n ih =>
    by_cases h1 : x = old
    · subst h1; exact Anc.step (by simpa [Dcache.dMove] using hnew)
    by_cases h2 : x = new
    · subst h2; exact Anc.step (by simpa [Dcache.dMove, h1] using hold)
    · exact Anc.step (by
        rw [hpar x h1 h2]; exact ih _ (by rwa [← Function.iterate_succ_apply]))

/-! ## The kernel -/

/-- What the kernel may answer to each call, and the cache it leaves. -/
def kernel (c : Dcache) : (o : Op) → o.Res → Dcache → Prop
  | .dParent d, r, c' => r = c.parent d ∧ c' = c
  | .dNegative d, r, c' => r = !c.positive d ∧ c' = c
  | .lockRename p1 p2, r, c' => c.Trap p1 p2 r ∧ c' = c
  | .lookupOneLen _ _, .error _, c' => c' = c
  | .lookupOneLen _ base, .ok d, c' => c.Alloc base d c'
  | .kernPathCreate _ _, .error _, c' => c' = c
  | .kernPathCreate _ _, .ok (path, d), c' => c.Alloc path.dentry d c'
  | .vfsRename oldDir old newDir new, r, c' => c' = c ∨
      r = 0 ∧ old ≠ new ∧ c.positive old = true ∧ c.parent old = oldDir ∧ oldDir ≠ old ∧
        c.parent new = newDir ∧ newDir ≠ new ∧ c' = c.dMove old new
  | .vfsCreate _ d _ _, r, c' | .vfsMkdir _ d _, r, c' | .vfsSymlink _ d _, r, c'
  | .vfsLink _ _ d, r, c' => c' = c ∨ r = 0 ∧ c' = c.setPositive d true
  | .vfsUnlink _ d, r, c' | .vfsRmdir _ d, r, c' => c' = c ∨ r = 0 ∧ c' = c.setPositive d false
  | _, _, c' => c' = c

end Dcache

/-- The call that moves a dentry that is already in the tree. -/
@[reducible] def Op.moves : Op → Bool
  | .vfsRename .. => true
  | _ => false

/-- The calls that read or change the dentry cache. -/
@[reducible] def Op.touchesDcache : Op → Bool
  | .dParent _ | .dNegative _ | .lockRename .. | .lookupOneLen .. | .kernPathCreate ..
  | .vfsRename .. | .vfsCreate .. | .vfsMkdir .. | .vfsSymlink .. | .vfsLink .. | .vfsUnlink ..
  | .vfsRmdir .. => true
  | _ => false

/-! The steps of the kernel, in the form in which `WpK` meets them. -/

namespace Dcache
variable {c : Dcache}

theorem forall_kernel_untouched {o : Op} (h : o.touchesDcache = false) {P : o.Res → Dcache → Prop} :
    (∀ r c', c.kernel o r c' → P r c') ↔ ∀ r, P r c := by
  have hk : ∀ r c', c.kernel o r c' ↔ c' = c := by cases o <;> first | exact fun _ _ => Iff.rfl | cases h
  simp only [hk, forall_eq]

@[simp] theorem forall_kernel_dParent {d : Dentry} {P : Dentry → Dcache → Prop} :
    (∀ r c', c.kernel (.dParent d) r c' → P r c') ↔ P (c.parent d) c := by
  simp [kernel]

@[simp] theorem forall_kernel_dNegative {d : Dentry} {P : Bool → Dcache → Prop} :
    (∀ r c', c.kernel (.dNegative d) r c' → P r c') ↔ P (!c.positive d) c := by
  simp [kernel]

@[simp] theorem forall_kernel_lockRename {p1 p2 : Dentry} {P : Option Dentry → Dcache → Prop} :
    (∀ r c', c.kernel (.lockRename p1 p2) r c' → P r c') ↔ ∀ r, c.Trap p1 p2 r → P r c := by
  simp [kernel]

@[simp] theorem forall_kernel_lookupOneLen {name : CStr} {base : Dentry}
    {P : Except Int Dentry → Dcache → Prop} :
    (∀ r c', c.kernel (.lookupOneLen name base) r c' → P r c') ↔
      (∀ e, P (.error e) c) ∧ ∀ d c', c.Alloc base d c' → P (.ok d) c' :=
  ⟨fun h => ⟨fun e => h _ _ rfl, fun d c' ha => h _ _ ha⟩, fun h r c' => by
    cases r
    exacts [fun hc => hc ▸ h.1 _, h.2 _ _]⟩

@[simp] theorem forall_kernel_vfsRename {oldDir old newDir new : Dentry}
    {P : Int → Dcache → Prop} :
    (∀ r c', c.kernel (.vfsRename oldDir old newDir new) r c' → P r c') ↔ (∀ r, P r c) ∧
      (old ≠ new → c.positive old = true → c.parent old = oldDir → oldDir ≠ old →
        c.parent new = newDir → newDir ≠ new → P 0 (c.dMove old new)) := by
  constructor
  · intro h
    exact ⟨fun r => h r c (Or.inl rfl), fun h1 h2 h3 h4 h5 h6 =>
      h 0 _ (Or.inr ⟨rfl, h1, h2, h3, h4, h5, h6, rfl⟩)⟩
  · rintro ⟨h, h'⟩ r c' (rfl | ⟨rfl, h1, h2, h3, h4, h5, h6, rfl⟩)
    exacts [h r, h' h1 h2 h3 h4 h5 h6]

/-- Every step but `vfs_rename` keeps the tree: the others hang at most a fresh dentry, or
change only whether a dentry is positive. -/
theorem WF.kernel (h : c.WF) {o : Op} {r : o.Res} {c' : Dcache} (ho : o.moves = false)
    (hk : c.kernel o r c') : c'.WF := by
  cases o
  case vfsRename => cases ho
  case lookupOneLen => cases r; exacts [hk ▸ h, h.alloc hk]
  case kernPathCreate => rcases r with _ | ⟨_, _⟩; exacts [hk ▸ h, h.alloc hk]
  case dParent | dNegative | lockRename => exact hk.2 ▸ h
  case vfsCreate | vfsMkdir | vfsSymlink | vfsLink | vfsUnlink | vfsRmdir =>
    rcases hk with rfl | ⟨-, rfl⟩
    exacts [h, ⟨h.1, h.2⟩]
  all_goals exact hk ▸ h

/-- Every call has an answer: the kernel never refuses to return. -/
theorem exists_kernel (c : Dcache) (o : Op) : ∃ r c', c.kernel o r c' := by
  cases o
  case lockRename p1 p2 => exact (c.trap_exists p1 p2).imp fun _ h => ⟨c, h, rfl⟩
  case lookupOneLen => exact ⟨.error 0, c, rfl⟩
  case kernPathCreate => exact ⟨.error 0, c, rfl⟩
  all_goals first | exact ⟨_, c, rfl, rfl⟩ | exact ⟨default, c, rfl⟩ | exact ⟨default, c, .inl rfl⟩

end Dcache

end CifsdVfs

import AmiberryAndroid.Jit.Word
import Mathlib.Data.Multiset.Basic

/-!
# The kernel, as the allocator sees it

The allocator owns two kinds of kernel objects: the memfd descriptors from `memfd_create`
and the mappings from `mmap`. `OsState.live` lists the ones it holds, newest first.

**The kernel's contract** (`OsState.Admits`). A call that succeeds hands out a resource that
is `Valid` (a descriptor is non-negative; a mapping is non-null, non-empty and ends inside the
address space) and `Apart` from every live one (a fresh descriptor number, a mapping disjoint
from every live mapping). A length-0 `mmap` can only fail. `ftruncate` may fail or succeed.

**Releases.** `munmap` and `close` are checked against `live`: releasing something that is
not live (or a mapping with a length other than the one it was created with) sets
`badRelease`, which stays set. The ownership invariant shows that it never is.

`OsState.Wf` (live resources valid and pairwise apart) holds initially and is kept by every
admitted call (`Wf.perform`).
-/

namespace AndroidJit

/-- A kernel object the allocator holds: a memfd descriptor, or the mapping
`[base, base + len)`. -/
inductive Res
  | fd (n : Int)
  | map (base : Ptr) (len : SizeT)
  deriving DecidableEq, Repr

namespace Res

/-- A resource the kernel can hand out. -/
def Valid : Res → Prop
  | fd n => 0 ≤ n
  | map b l => b ≠ 0 ∧ 0 < l.toNat ∧ b.toNat + l.toNat < 2 ^ 64

/-- Two resources the kernel keeps apart: distinct descriptors, disjoint mappings. -/
def Apart : Res → Res → Prop
  | fd n, fd m => n ≠ m
  | map b l, map b' l' => b.toNat + l.toNat ≤ b'.toNat ∨ b'.toNat + l'.toNat ≤ b.toNat
  | _, _ => True

instance : (r : Res) → Decidable r.Valid
  | fd n => inferInstanceAs (Decidable (0 ≤ n))
  | map b l => inferInstanceAs (Decidable (b ≠ 0 ∧ 0 < l.toNat ∧ b.toNat + l.toNat < 2 ^ 64))

instance : (r r' : Res) → Decidable (r.Apart r')
  | fd n, fd m => inferInstanceAs (Decidable (n ≠ m))
  | map b l, map b' l' =>
    inferInstanceAs (Decidable (b.toNat + l.toNat ≤ b'.toNat ∨ b'.toNat + l'.toNat ≤ b.toNat))
  | fd _, map _ _ | map _ _, fd _ => isTrue trivial

theorem Apart.symm {r r' : Res} (h : r.Apart r') : r'.Apart r := by
  cases r <;> cases r' <;> simp only [Apart] at h ⊢ <;> omega

theorem not_apart_self {r : Res} (h : r.Valid) : ¬r.Apart r := by
  cases r <;> simp only [Valid, Apart] at h ⊢ <;> omega

end Res

theorem coe_cons_eq_add (x : Res) (l : List Res) :
    ((x :: l : List Res) : Multiset Res) = l + {x} := by
  rw [← Multiset.cons_coe, add_comm, Multiset.singleton_add]

theorem erase_add_singleton {x : Res} {l : List Res} (hx : x ∈ l) :
    ((l.erase x : List Res) : Multiset Res) + {x} = l := by
  rw [← Multiset.coe_erase, add_comm, Multiset.singleton_add, Multiset.cons_erase (Multiset.mem_coe.2 hx)]

/-- The protection of a mapping: `PROT_READ | PROT_WRITE` or `PROT_READ | PROT_EXEC`. -/
inductive Prot
  | readWrite
  | readExec
  deriving DecidableEq, Repr

/-- The system calls the allocator makes. -/
inductive Syscall
  | memfdCreate
  | ftruncate (fd : Int) (len : SizeT)
  | mmap (len : SizeT) (prot : Prot) (fd : Int)
  | munmap (addr : Ptr) (len : SizeT)
  | close (fd : Int)
  deriving DecidableEq, Repr

/-- The call that releases a resource: `close` or `munmap` with its recorded length. -/
def Res.releaseCall : Res → Syscall
  | .fd n => .close n
  | .map b l => .munmap b l

namespace Syscall

/-- What a call releases. -/
def released : Syscall → List Res
  | munmap a l => [.map a l]
  | close fd => [.fd fd]
  | _ => []

@[simp] theorem released_releaseCall (r : Res) : r.releaseCall.released = [r] := by
  cases r <;> rfl

/-- The length argument of a call, for the calls that take one. -/
def length? : Syscall → Option SizeT
  | ftruncate _ len | mmap len _ _ | munmap _ len => some len
  | _ => none

end Syscall

/-- The kernel's answer to a call: `ret` for the calls returning `int`, `addr` for `mmap`. -/
structure Reply where
  ret : Int
  addr : Ptr
  deriving DecidableEq, Repr

/-- The kernel state the allocator depends on. -/
structure OsState where
  /-- The descriptors and mappings the allocator holds, newest first. -/
  live : List Res
  /-- Set once `munmap` or `close` is applied to something not live. -/
  badRelease : Bool
  /-- What `sysconf(_SC_PAGESIZE)` returns, converted to `size_t`. -/
  pageSize : SizeT
  deriving DecidableEq, Repr

namespace OsState

/-- The kernel before the allocator has made any call. -/
def initial (pageSize : SizeT) : OsState := ⟨[], false, pageSize⟩

/-- A resource the kernel may hand out now. -/
def Fresh (os : OsState) (r : Res) : Prop := r.Valid ∧ ∀ r' ∈ os.live, r.Apart r'

instance (os : OsState) (r : Res) : Decidable (os.Fresh r) :=
  inferInstanceAs (Decidable (r.Valid ∧ ∀ r' ∈ os.live, r.Apart r'))

def acquire (os : OsState) (r : Res) : OsState := { os with live := r :: os.live }

def release (os : OsState) (r : Res) : OsState :=
  if r ∈ os.live then { os with live := os.live.erase r } else { os with badRelease := true }

/-- The effect of one call, given the kernel's reply. -/
def perform (os : OsState) : Syscall → Reply → OsState
  | .memfdCreate, r => if r.ret < 0 then os else os.acquire (.fd r.ret)
  | .ftruncate _ _, _ => os
  | .mmap len _ _, r => if r.addr = mapFailed then os else os.acquire (.map r.addr len)
  | .munmap a l, _ => os.release (.map a l)
  | .close fd, _ => os.release (.fd fd)

/-- A sequence of calls, each answered by the same reply (the releases ignore it). -/
def performAll (os : OsState) (cs : List Syscall) (r : Reply) : OsState :=
  cs.foldl (fun os c => os.perform c r) os

@[simp] theorem performAll_nil (os : OsState) (r : Reply) : os.performAll [] r = os := rfl

@[simp] theorem performAll_cons (os : OsState) (c : Syscall) (cs : List Syscall) (r : Reply) :
    os.performAll (c :: cs) r = (os.perform c r).performAll cs r := rfl

theorem performAll_append (os : OsState) (cs cs' : List Syscall) (r : Reply) :
    os.performAll (cs ++ cs') r = (os.performAll cs r).performAll cs' r := List.foldl_append _ _ _ _

/-- The kernel's contract for the reply to one call. -/
def Admits (os : OsState) : Syscall → Reply → Prop
  | .memfdCreate, r => r.ret < 0 ∨ os.Fresh (.fd r.ret)
  | .mmap len _ _, r => r.addr = mapFailed ∨ os.Fresh (.map r.addr len)
  | _, _ => True

instance (os : OsState) : (c : Syscall) → (r : Reply) → Decidable (os.Admits c r)
  | .memfdCreate, r => inferInstanceAs (Decidable (r.ret < 0 ∨ os.Fresh (.fd r.ret)))
  | .mmap len _ _, r => inferInstanceAs (Decidable (r.addr = mapFailed ∨ os.Fresh (.map r.addr len)))
  | .ftruncate _ _, _ | .munmap _ _, _ | .close _, _ => isTrue trivial

/-- The live resources are valid and pairwise apart. -/
structure Wf (os : OsState) : Prop where
  valid : ∀ r ∈ os.live, r.Valid
  apart : os.live.Pairwise Res.Apart

theorem wf_initial (p : SizeT) : (initial p).Wf := ⟨by simp [initial], List.Pairwise.nil⟩

@[simp] theorem pageSize_perform (os : OsState) (c : Syscall) (r : Reply) :
    (os.perform c r).pageSize = os.pageSize := by
  cases c <;> simp only [perform, acquire, release] <;> split_ifs <;> rfl

@[simp] theorem pageSize_performAll (os : OsState) (cs : List Syscall) (r : Reply) :
    (os.performAll cs r).pageSize = os.pageSize := by
  induction cs generalizing os <;> simp [*]

theorem Wf.nodup {os : OsState} (h : os.Wf) : os.live.Nodup :=
  h.apart.imp_of_mem fun ha _ hab => by rintro rfl; exact Res.not_apart_self (h.valid _ ha) hab

theorem Wf.acquire {os : OsState} (h : os.Wf) {r : Res} (hr : os.Fresh r) : (os.acquire r).Wf :=
  ⟨by simpa [OsState.acquire] using ⟨hr.1, h.valid⟩, List.Pairwise.cons hr.2 h.apart⟩

theorem Wf.release {os : OsState} (h : os.Wf) (r : Res) : (os.release r).Wf := by
  unfold OsState.release
  split_ifs
  · exact ⟨fun x hx => h.valid x (List.mem_of_mem_erase hx), h.apart.sublist (List.erase_sublist _ _)⟩
  · exact ⟨h.valid, h.apart⟩

theorem Wf.perform {os : OsState} (h : os.Wf) {c : Syscall} {r : Reply} (ha : os.Admits c r) :
    (os.perform c r).Wf := by
  cases c with
  | memfdCreate =>
    simp only [OsState.perform]
    split_ifs with hr
    · exact h
    · exact h.acquire (ha.resolve_left hr)
  | ftruncate => exact h
  | mmap len prot fd =>
    simp only [OsState.perform]
    split_ifs with hr
    · exact h
    · exact h.acquire (ha.resolve_left hr)
  | munmap a l => exact h.release _
  | close fd => exact h.release _

/-! ## Accounting -/

/-- What a call acquires, given the reply. -/
def acquired : Syscall → Reply → List Res
  | .memfdCreate, r => if r.ret < 0 then [] else [.fd r.ret]
  | .mmap len _ _, r => if r.addr = mapFailed then [] else [.map r.addr len]
  | _, _ => []

theorem live_release {os : OsState} {x : Res} (hx : x ∈ os.live) :
    ((os.release x).live : Multiset Res) = (os.live : Multiset Res).erase x ∧
      (os.release x).badRelease = os.badRelease ∧ (os.release x).pageSize = os.pageSize := by
  simp [OsState.release, hx]

/-- A call whose releases are live adds what it acquires and takes out what it releases. -/
theorem live_perform {os : OsState} (c : Syscall) (r : Reply) (hc : ∀ x ∈ c.released, x ∈ os.live) :
    ((os.perform c r).live : Multiset Res) + c.released = os.live + acquired c r ∧
      (os.perform c r).badRelease = os.badRelease := by
  cases c with
  | memfdCreate =>
    simp only [perform, acquired, Syscall.released]
    split_ifs <;> simp [acquire, coe_cons_eq_add]
  | ftruncate => simp [perform, acquired, Syscall.released]
  | mmap =>
    simp only [perform, acquired, Syscall.released]
    split_ifs <;> simp [acquire, coe_cons_eq_add]
  | munmap a l =>
    have hx := hc _ (List.mem_singleton_self _)
    simp [perform, acquired, Syscall.released, release, hx, erase_add_singleton hx]
  | close fd =>
    have hx := hc _ (List.mem_singleton_self _)
    simp [perform, acquired, Syscall.released, release, hx, erase_add_singleton hx]

/-- Releasing a list of live resources, one `close` or `munmap` each, takes out exactly them. -/
theorem performAll_releaseCalls {os : OsState} (hw : os.Wf) (r : Reply) :
    ∀ {rs : List Res}, (rs : Multiset Res) ≤ os.live →
      let os' := os.performAll (rs.map Res.releaseCall) r
      os'.Wf ∧ (os'.live : Multiset Res) = os.live - rs ∧ os'.badRelease = os.badRelease ∧
        os'.pageSize = os.pageSize
  | [], _ => ⟨hw, by simp [performAll], rfl, rfl⟩
  | x :: rs, hle => by
    have hx : x ∈ os.live := Multiset.mem_coe.1 (Multiset.mem_of_le hle (by simp))
    have hperf : os.perform x.releaseCall r = os.release x := by cases x <;> rfl
    obtain ⟨h1, h2, h3⟩ := live_release hx
    have hle' : (rs : Multiset Res) ≤ (os.release x).live := by
      rw [h1, ← Multiset.erase_cons_head x rs]
      exact Multiset.erase_le_erase x hle
    obtain ⟨w, l, b, p⟩ := performAll_releaseCalls (hw.release x) r hle'
    rw [List.map_cons, performAll_cons, hperf]
    refine ⟨w, ?_, b.trans h2, p.trans h3⟩
    rw [l, h1, ← Multiset.cons_coe, Multiset.sub_cons]

end OsState

end AndroidJit

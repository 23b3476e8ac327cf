import AmiberryAndroid.Jit.System
import Mathlib.Data.List.Pairwise
import Mathlib.Data.Multiset.Nodup
import Mathlib.Algebra.BigOperators.Group.List
import Mathlib.Algebra.Order.BigOperators.Group.List
import Mathlib.Tactic.Abel
import Mathlib.Data.Multiset.OrderedMonoid

/-!
# The registry invariant

`Inv` is what holds in every reachable state:

* *kernel*: the live descriptors and mappings are valid and pairwise apart (`OsState.Wf`);
* *ownership*: the multiset of what the allocator holds, the records' descriptors and views
  and the kernel objects in the locals of in-flight `android_jit_alloc` calls, is exactly the
  multiset of live kernel objects, and no release ever missed;
* *shape*: the keys of `g_jit_allocations_by_rw` are the records' `rw_ptr`s, and
  `g_jit_allocations_by_rx` is, up to order, the list of `(rx_ptr, rw_ptr)` of the records.

Ownership is what keeps the shape: a new registration cannot land on a key that is in use,
because the record there and the call registering would hold two live mappings at the same
address, which the kernel never hands out. The facts about single records that the claims
state (non-null, disjoint views, in the address space) follow from ownership and the kernel
invariant (`Inv.record_valid`, `Inv.records_apart`).
-/

namespace AndroidJit

/-- The kernel objects a record owns, in the order `releaseCalls` releases them. -/
def JitAllocation.resources (a : JitAllocation) : List Res :=
  [.map a.rwPtr a.size, .map a.rxPtr a.size, .fd a.fd]

/-- The kernel objects an in-flight call holds in its locals, newest first. -/
def AllocPc.resources : AllocPc → List Res
  | .ftruncate _ fd | .mmapRw _ fd | .closeFd fd => [.fd fd]
  | .mmapRx len fd rw | .unmapRw len fd rw => [.map rw len, .fd fd]
  | .register len fd rw rx => [.map rx len, .map rw len, .fd fd]
  | _ => []

/-- What the entries of `g_jit_allocations_by_rw` hold. -/
def entriesHeld (es : List (Ptr × JitAllocation)) : Multiset Res :=
  (es.map fun e => (e.2.resources : Multiset Res)).sum

/-- What the in-flight calls hold. -/
def framesHeld (fs : List AllocFrame) : Multiset Res :=
  (fs.map fun f => (f.pc.resources : Multiset Res)).sum

/-- What the allocator holds. -/
def Sys.held (s : Sys) : Multiset Res :=
  entriesHeld s.reg.jitAllocationsByRw.entries + framesHeld s.frames

/-- The second map indexes the records of the first. -/
structure Registry.Shape (g : Registry) : Prop where
  nodupKeys : g.jitAllocationsByRw.NodupKeys
  keyEq : ∀ k a, (k, a) ∈ g.jitAllocationsByRw.entries → a.rwPtr = k
  rxIndex : g.jitAllocationsByRx.entries.Perm
    (g.jitAllocationsByRw.entries.map fun e => (e.2.rxPtr, e.1))

/-- The allocator's invariant. -/
structure Inv (s : Sys) : Prop where
  wf : s.os.Wf
  owned : s.held = s.os.live
  noBadRelease : s.os.badRelease = false
  shape : s.reg.Shape

/-! ## Sums of held resources -/

@[simp] theorem entriesHeld_nil : entriesHeld [] = 0 := rfl

@[simp] theorem entriesHeld_cons (e : Ptr × JitAllocation) (es : List (Ptr × JitAllocation)) :
    entriesHeld (e :: es) = e.2.resources + entriesHeld es := List.sum_cons

theorem entriesHeld_perm {es es' : List (Ptr × JitAllocation)} (h : es.Perm es') :
    entriesHeld es = entriesHeld es' := (h.map _).sum_eq

theorem entriesHeld_erase {m : StdMap JitAllocation} (hm : m.NodupKeys) {k : Ptr}
    {a : JitAllocation} (h : (k, a) ∈ m.entries) :
    entriesHeld m.entries = a.resources + entriesHeld (m.erase k).entries := by
  rw [entriesHeld_perm (StdMap.erase_perm hm h), entriesHeld_cons]

@[simp] theorem framesHeld_append (fs fs' : List AllocFrame) :
    framesHeld (fs ++ fs') = framesHeld fs + framesHeld fs' := by
  simp [framesHeld]

/-- Replacing one call's frame changes what the calls hold by the difference. -/
theorem framesHeld_set {f : AllocFrame} (f' : AllocFrame) :
    ∀ {fs : List AllocFrame} {t : Nat}, fs[t]? = some f →
      framesHeld (fs.set t f') + f.pc.resources = framesHeld fs + f'.pc.resources
  | [], _, h => by simp at h
  | g :: fs, 0, h => by
    obtain rfl : g = f := by simpa using h
    simp only [framesHeld, List.set_cons_zero, List.map_cons, List.sum_cons]
    abel
  | g :: fs, t + 1, h => by
    have := framesHeld_set f' (show fs[t]? = some f by simpa using h)
    simp only [framesHeld, List.set_cons_succ, List.map_cons, List.sum_cons] at this ⊢
    rw [add_assoc, this, add_assoc]

theorem frame_le_held {s : Sys} {t : Nat} {f : AllocFrame} (hf : s.frames[t]? = some f) :
    (f.pc.resources : Multiset Res) ≤ s.held :=
  (List.le_sum_of_mem (List.mem_map_of_mem _ (List.getElem?_mem hf))).trans (Multiset.le_add_left _ _)

/-! ## What the invariant gives -/

namespace Inv

variable {s : Sys}

theorem nodup (h : Inv s) : (s.os.live : Multiset Res).Nodup := Multiset.coe_nodup.2 h.wf.nodup

theorem valid_of_mem (h : Inv s) {x : Res} (hx : x ∈ s.held) : x.Valid :=
  h.wf.valid x (by rw [h.owned] at hx; exact Multiset.mem_coe.1 hx)

/-- Two holdings of the allocator are two different kernel objects, hence apart. -/
theorem apart_of_le (h : Inv s) {x y : Res} (hxy : ({x} + {y} : Multiset Res) ≤ s.held) :
    x.Apart y := by
  rw [h.owned, Multiset.singleton_add] at hxy
  by_cases hne : x = y
  · subst hne
    have := Multiset.count_le_of_le x hxy
    rw [Multiset.count_eq_one_of_mem h.nodup (Multiset.mem_of_le hxy (by simp))] at this
    simp at this
  · exact h.wf.apart.forall (fun _ _ => Res.Apart.symm)
      (Multiset.mem_coe.1 (Multiset.mem_of_le hxy (by simp)))
      (Multiset.mem_coe.1 (Multiset.mem_of_le hxy (by simp))) hne

theorem entry_le (h : Inv s) {k : Ptr} {a : JitAllocation}
    (ha : (k, a) ∈ s.reg.jitAllocationsByRw.entries) : (a.resources : Multiset Res) ≤ s.held := by
  rw [Sys.held, entriesHeld_erase h.shape.nodupKeys ha, add_assoc]
  exact Multiset.le_add_right _ _

theorem two_entries_le (h : Inv s) {k k' : Ptr} {a b : JitAllocation}
    (ha : (k, a) ∈ s.reg.jitAllocationsByRw.entries)
    (hb : (k', b) ∈ s.reg.jitAllocationsByRw.entries) (hne : k ≠ k') :
    (a.resources : Multiset Res) + b.resources ≤ s.held := by
  have hm := h.shape.nodupKeys
  have hb' : (k', b) ∈ (s.reg.jitAllocationsByRw.erase k).entries := StdMap.mem_erase.2 ⟨hb, hne.symm⟩
  rw [Sys.held, entriesHeld_erase hm ha, entriesHeld_erase (hm.erase k) hb', add_assoc, add_assoc]
  exact add_le_add_left (Multiset.le_add_right _ _) _

theorem entry_frame_le (h : Inv s) {k : Ptr} {a : JitAllocation}
    (ha : (k, a) ∈ s.reg.jitAllocationsByRw.entries) {t : Nat} {f : AllocFrame}
    (hf : s.frames[t]? = some f) : (a.resources : Multiset Res) + f.pc.resources ≤ s.held := by
  rw [Sys.held, entriesHeld_erase h.shape.nodupKeys ha, add_assoc]
  exact add_le_add_left ((List.le_sum_of_mem (List.mem_map_of_mem _ (List.getElem?_mem hf))).trans
    (Multiset.le_add_left _ _)) _

end Inv

/-! ## Single records -/

/-- A record as the claims describe it: a valid descriptor, and two non-null views of
positive length, inside the address space and disjoint. -/
structure JitAllocation.Valid (a : JitAllocation) : Prop where
  rw_ne : a.rwPtr ≠ 0
  rx_ne : a.rxPtr ≠ 0
  fd_nonneg : 0 ≤ a.fd
  size_pos : 0 < a.size.toNat
  rw_end : a.rwPtr.toNat + a.size.toNat < 2 ^ 64
  rx_end : a.rxPtr.toNat + a.size.toNat < 2 ^ 64
  views_apart : (Res.map a.rwPtr a.size).Apart (.map a.rxPtr a.size)

/-- Two records share no descriptor, and no view of one meets a view of the other. -/
structure JitAllocation.Apart (a b : JitAllocation) : Prop where
  fd_ne : a.fd ≠ b.fd
  views : ∀ x ∈ [a.rwPtr, a.rxPtr], ∀ y ∈ [b.rwPtr, b.rxPtr], (Res.map x a.size).Apart (.map y b.size)

theorem singleton_add_le_of_mem {x y : Res} {l l' : List Res} (hx : x ∈ l) (hy : y ∈ l') :
    ({x} + {y} : Multiset Res) ≤ (l : Multiset Res) + l' :=
  add_le_add (Multiset.singleton_le.2 (Multiset.mem_coe.2 hx)) (Multiset.singleton_le.2 (Multiset.mem_coe.2 hy))

namespace Inv

variable {s : Sys}

theorem record_valid (h : Inv s) {k : Ptr} {a : JitAllocation}
    (ha : (k, a) ∈ s.reg.jitAllocationsByRw.entries) : a.Valid := by
  have hle := h.entry_le ha
  have hv : ∀ x ∈ a.resources, x.Valid := fun x hx =>
    h.valid_of_mem (Multiset.mem_of_le hle (Multiset.mem_coe.2 hx))
  obtain ⟨hrw, hsize, hrwe⟩ := hv (.map a.rwPtr a.size) (by simp [JitAllocation.resources])
  obtain ⟨hrx, -, hrxe⟩ := hv (.map a.rxPtr a.size) (by simp [JitAllocation.resources])
  refine ⟨hrw, hrx, hv (.fd a.fd) (by simp [JitAllocation.resources]), hsize, hrwe, hrxe,
    h.apart_of_le (le_trans (Multiset.coe_le.2 (List.sublist_append_left _ [_]).subperm) hle)⟩

theorem records_apart (h : Inv s) {k k' : Ptr} {a b : JitAllocation}
    (ha : (k, a) ∈ s.reg.jitAllocationsByRw.entries)
    (hb : (k', b) ∈ s.reg.jitAllocationsByRw.entries) (hne : k ≠ k') : a.Apart b := by
  have hle := h.two_entries_le ha hb hne
  have hab : ∀ x ∈ a.resources, ∀ y ∈ b.resources, x.Apart y := fun x hx y hy =>
    h.apart_of_le ((singleton_add_le_of_mem hx hy).trans hle)
  refine ⟨hab (.fd a.fd) (by simp [JitAllocation.resources]) (.fd b.fd)
    (by simp [JitAllocation.resources]), fun x hx y hy => hab _ ?_ _ ?_⟩ <;>
  · simp only [List.mem_cons, List.mem_singleton, List.not_mem_nil, or_false] at hx hy
    rcases hx with rfl | rfl <;> rcases hy with rfl | rfl <;> simp [JitAllocation.resources]

end Inv

end AndroidJit

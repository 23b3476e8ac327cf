import AmiberryAndroid.Jit.Invariant

/-!
# Every step keeps the invariant

**Theorem (`Inv.reachable`).** Every reachable state satisfies `Inv`.

One lemma per kind of event. The locked functions release whole records: `androidJitFree`
one, `androidJitShutdown` all of them, and `performAll_releaseCalls` takes exactly those out of
the kernel. A step of an `android_jit_alloc` call is accounted for by `AllocFrame.step_held`:
what the registry and the call hold after it, plus what the step's system call released,
equals what they held before plus what the call acquired. The kernel side of the same
equation is `OsState.live_perform`, so the two stay equal.
-/

namespace AndroidJit

/-! ## Accounting for one step of a call -/

namespace AllocPc

/-- What the step's system call acquires, given the reply. -/
def acquired (pc : AllocPc) (r : Reply) : List Res := (pc.syscall.map (OsState.acquired · r)).getD []

/-- What the step's system call releases. -/
def released (pc : AllocPc) : List Res := (pc.syscall.map Syscall.released).getD []

theorem released_subset : ∀ (pc : AllocPc), ∀ x ∈ pc.released, x ∈ pc.resources := by
  intro pc; cases pc <;> simp [released, syscall, resources, Syscall.released]

theorem live_perform (pc : AllocPc) {os : OsState} (r : Reply) (h : ∀ x ∈ pc.released, x ∈ os.live) :
    ((pc.perform os r).live : Multiset Res) + pc.released = os.live + pc.acquired r ∧
      (pc.perform os r).badRelease = os.badRelease := by
  unfold perform acquired released at *
  cases hc : pc.syscall with
  | none => simp
  | some c => simpa [hc] using OsState.live_perform c r (by simpa [hc] using h)

end AllocPc

theorem entriesHeld_register {g : Registry} {a : JitAllocation}
    (hrw : a.rwPtr ∉ g.jitAllocationsByRw.keys) :
    entriesHeld (g.register a).jitAllocationsByRw.entries =
      a.resources + entriesHeld g.jitAllocationsByRw.entries := by
  rw [Registry.register, entriesHeld_perm (StdMap.assign_perm hrw a), entriesHeld_cons]

/-- What one step of a call does to what the registry and the call hold. -/
theorem AllocFrame.step_held (sc : SizeT) (g : Registry) (f : AllocFrame) (r : Reply)
    (hfresh : ∀ len fd rw rx, f.pc = .register len fd rw rx → rw ∉ g.jitAllocationsByRw.keys) :
    entriesHeld (f.step sc g r).1.jitAllocationsByRw.entries + (f.step sc g r).2.pc.resources +
        f.pc.released =
      entriesHeld g.jitAllocationsByRw.entries + f.pc.resources + f.pc.acquired r := by
  rcases f with ⟨size, rwOut, rxOut, pc⟩
  cases pc with
  | register len fd rw rx =>
    rw [step, entriesHeld_register (hfresh _ _ _ _ rfl)]
    simpa [AllocPc.resources, AllocPc.released, AllocPc.acquired, AllocPc.syscall,
      JitAllocation.resources, add_comm] using List.Perm.swap _ _ _
  | checkInit | memfd | ftruncate | mmapRw | mmapRx =>
    simp only [step, AllocPc.released, AllocPc.acquired, AllocPc.syscall, Option.map_some',
      Option.map_none', Option.getD_some, Option.getD_none, OsState.acquired, Syscall.released]
    split_ifs <;> simp only [AllocPc.resources, coe_cons_eq_add, Multiset.coe_nil, add_zero,
      zero_add] <;> abel
  | unmapRw len fd rw =>
    simp only [step, AllocPc.released, AllocPc.acquired, AllocPc.syscall, Option.map_some',
      Option.getD_some, OsState.acquired, Syscall.released, AllocPc.resources, coe_cons_eq_add,
      Multiset.coe_nil, zero_add]
    abel
  | callInit | round | closeFd | done =>
    simp only [step, AllocPc.released, AllocPc.acquired, AllocPc.syscall, Option.map_some',
      Option.map_none', Option.getD_some, Option.getD_none, OsState.acquired, Syscall.released,
      AllocPc.resources, androidJitInit_jitAllocationsByRw, coe_cons_eq_add, Multiset.coe_nil,
      add_zero, zero_add]


/-! ## The shape of the maps -/

namespace Registry.Shape

variable {g : Registry}

theorem of_maps (h : g.Shape) {g' : Registry}
    (hrw : g'.jitAllocationsByRw = g.jitAllocationsByRw)
    (hrx : g'.jitAllocationsByRx = g.jitAllocationsByRx) : g'.Shape :=
  ⟨hrw ▸ h.nodupKeys, hrw ▸ h.keyEq, hrw ▸ hrx ▸ h.rxIndex⟩

theorem empty {g : Registry} (hrw : g.jitAllocationsByRw = .empty)
    (hrx : g.jitAllocationsByRx = .empty) : g.Shape :=
  ⟨by simp [hrw, StdMap.NodupKeys, StdMap.keys], by simp [hrw], by simp [hrw, hrx]⟩

/-- Registering at two fresh keys keeps the shape. -/
theorem register (h : g.Shape) {a : JitAllocation} (hrw : a.rwPtr ∉ g.jitAllocationsByRw.keys)
    (hrx : a.rxPtr ∉ g.jitAllocationsByRx.keys) : (g.register a).Shape where
  nodupKeys := h.nodupKeys.assign hrw a
  keyEq k b hb := by
    rcases List.mem_cons.1 ((StdMap.assign_perm hrw a).mem_iff.1 hb) with h' | h'
    · cases h'; rfl
    · exact h.keyEq k b h'
  rxIndex := (StdMap.assign_perm hrx a.rwPtr).trans
    ((h.rxIndex.cons _).trans
      ((StdMap.assign_perm hrw a).map fun e : Ptr × JitAllocation => (e.2.rxPtr, e.1)).symm)

/-- Erasing a record, and the one index entry at its `rx_ptr`, keeps the shape, when no other
record has that `rx_ptr`. -/
theorem erase (h : g.Shape) {k : Ptr} {a : JitAllocation}
    (ha : (k, a) ∈ g.jitAllocationsByRw.entries)
    (huniq : ∀ k' b, (k', b) ∈ g.jitAllocationsByRw.entries → k' ≠ k → b.rxPtr ≠ a.rxPtr) :
    ({ g with jitAllocationsByRx := g.jitAllocationsByRx.erase a.rxPtr,
              jitAllocationsByRw := g.jitAllocationsByRw.erase k } : Registry).Shape where
  nodupKeys := h.nodupKeys.erase k
  keyEq k' b hb := h.keyEq k' b (StdMap.mem_erase.1 hb).1
  rxIndex := by
    refine (h.rxIndex.filter _).trans ((((StdMap.erase_perm h.nodupKeys ha).map _).filter _).trans ?_)
    rw [List.map_cons, List.filter_cons_of_neg (by simp), List.filter_eq_self.2]
    rintro ⟨x, k'⟩ he
    obtain ⟨⟨k'', b⟩, hb, he'⟩ := List.mem_map.1 he
    cases he'
    obtain ⟨hb, hne⟩ := StdMap.mem_erase.1 hb
    simpa using huniq _ _ hb hne

end Registry.Shape


/-! ## One lemma per event -/

theorem releaseCalls_eq {a : JitAllocation} (ha : a.Valid) :
    releaseCalls a = a.resources.map Res.releaseCall := by
  rw [releaseCalls, if_pos ha.rw_ne, if_pos ha.rx_ne, if_pos ha.fd_nonneg]
  rfl

theorem entriesHeld_eq_coe (es : List (Ptr × JitAllocation)) :
    entriesHeld es = ↑(es.flatMap fun e => e.2.resources) := by
  induction es with
  | nil => rfl
  | cons e es ih => simp [ih]

namespace Inv

variable {s : Sys}

/-- A call about to register holds two mappings that no record uses. -/
theorem register_fresh (h : Inv s) {t : Nat} {f : AllocFrame} (hf : s.frames[t]? = some f)
    {len : SizeT} {fd : Int} {rw rx : Ptr} (hpc : f.pc = .register len fd rw rx) :
    rw ∉ s.reg.jitAllocationsByRw.keys ∧ rx ∉ s.reg.jitAllocationsByRx.keys := by
  have clash : ∀ k b, (k, b) ∈ s.reg.jitAllocationsByRw.entries → ∀ p,
      (p = b.rwPtr ∨ p = b.rxPtr) → Res.map p len ∈ f.pc.resources → False := by
    intro k b hb p hp hpf
    have hap := h.apart_of_le ((singleton_add_le_of_mem (show Res.map p b.size ∈ b.resources by
      rcases hp with rfl | rfl <;> simp [JitAllocation.resources]) hpf).trans
      (h.entry_frame_le hb hf))
    have hb' := (h.record_valid hb).size_pos
    have hlen := (h.valid_of_mem (Multiset.mem_of_le (frame_le_held hf) (Multiset.mem_coe.2 hpf))).2.1
    simp only [Res.Apart] at hap
    omega
  constructor
  · intro hk
    obtain ⟨b, hb⟩ := StdMap.mem_keys.1 hk
    exact clash _ b hb rw (.inl (h.shape.keyEq _ _ hb).symm) (by simp [hpc, AllocPc.resources])
  · intro hk
    obtain ⟨k, hk⟩ := StdMap.mem_keys.1 hk
    obtain ⟨⟨k', b⟩, hb, he⟩ := List.mem_map.1 (h.shape.rxIndex.mem_iff.1 hk)
    cases he
    exact clash _ b hb _ (.inr rfl) (by simp [hpc, AllocPc.resources])

/-- A locked function that leaves both maps alone keeps the invariant. -/
theorem with_reg (h : Inv s) {g : Registry} (hrw : g.jitAllocationsByRw = s.reg.jitAllocationsByRw)
    (hrx : g.jitAllocationsByRx = s.reg.jitAllocationsByRx) : Inv { s with reg := g } :=
  ⟨h.wf, by simpa [Sys.held, hrw] using h.owned, h.noBadRelease, h.shape.of_maps hrw hrx⟩

theorem allocCall (h : Inv s) (size : SizeT) (rwOut rxOut : Option Ptr) :
    Inv (s.step (.allocCall size rwOut rxOut)) := by
  have hstart : (AllocFrame.start size rwOut rxOut).pc.resources = [] := by
    unfold AllocFrame.start; split <;> rfl
  refine ⟨h.wf, ?_, h.noBadRelease, h.shape⟩
  simpa [Sys.step, Sys.held, framesHeld, hstart] using h.owned

theorem shutdown (h : Inv s) : Inv (s.step .shutdown) := by
  have hcalls : (androidJitShutdown s.reg).2 =
      (s.reg.jitAllocationsByRw.entries.flatMap fun e => e.2.resources).map Res.releaseCall := by
    rw [androidJitShutdown, List.map_flatMap]
    exact List.flatMap_congr fun e he => releaseCalls_eq (h.record_valid he)
  have hle : ((s.reg.jitAllocationsByRw.entries.flatMap fun e => e.2.resources : List Res) :
      Multiset Res) ≤ s.os.live := by
    rw [← entriesHeld_eq_coe, ← h.owned]
    exact Multiset.le_add_right _ _
  obtain ⟨w, l, b, -⟩ := OsState.performAll_releaseCalls h.wf .ignored hle
  refine ⟨by simpa [Sys.step, hcalls] using w, ?_, by simpa [Sys.step, hcalls, b] using h.noBadRelease,
    Registry.Shape.empty rfl rfl⟩
  simp only [Sys.step, hcalls, l, ← entriesHeld_eq_coe, ← h.owned, Sys.held]
  simp [androidJitShutdown]

theorem free (h : Inv s) (rw rx : Ptr) (n : SizeT) : Inv (s.step (.free rw rx n)) := by
  by_cases h0 : rw = 0 ∧ rx = 0
  · simpa [Sys.step, androidJitFree, h0] using h
  cases hf : s.reg.jitAllocationsByRw.find rw with
  | none => simpa [Sys.step, androidJitFree, h0, hf] using h
  | some a =>
    have ha := (StdMap.find_eq_some_iff h.shape.nodupKeys).1 hf
    have hfree : androidJitFree s.reg rw rx n =
        ({ s.reg with jitAllocationsByRx := s.reg.jitAllocationsByRx.erase a.rxPtr,
                      jitAllocationsByRw := s.reg.jitAllocationsByRw.erase rw }, releaseCalls a) := by
      rw [androidJitFree, if_neg h0, hf]
    have hle : (a.resources : Multiset Res) ≤ s.os.live := h.owned ▸ h.entry_le ha
    obtain ⟨w, l, b, -⟩ := OsState.performAll_releaseCalls h.wf .ignored hle
    have huniq : ∀ k' b, (k', b) ∈ s.reg.jitAllocationsByRw.entries → k' ≠ rw →
        b.rxPtr ≠ a.rxPtr := fun k' b hb hne heq => by
      have hap := (h.records_apart hb ha hne).views b.rxPtr (by simp) a.rxPtr (by simp)
      have := (h.record_valid hb).size_pos
      have := (h.record_valid ha).size_pos
      rw [heq] at hap
      simp only [Res.Apart] at hap
      omega
    simp only [Sys.step, hfree, releaseCalls_eq (h.record_valid ha)]
    refine ⟨w, ?_, b.trans h.noBadRelease, h.shape.erase ha huniq⟩
    rw [l, ← h.owned]
    simp only [Sys.held]
    rw [entriesHeld_erase h.shape.nodupKeys ha, add_assoc, add_tsub_cancel_left]

theorem allocStep (h : Inv s) {t : Nat} {r : Reply} (he : s.Admits (.allocStep t r)) :
    Inv (s.step (.allocStep t r)) := by
  cases hf : s.frames[t]? with
  | none => rwa [Sys.step_allocStep_none hf]
  | some f =>
    have hadm : ∀ c ∈ f.pc.syscall, s.os.Admits c r := he f hf
    have hfresh := fun len fd rw rx (hpc : f.pc = .register len fd rw rx) => h.register_fresh hf hpc
    have hrel : ∀ x ∈ f.pc.released, x ∈ s.os.live := fun x hx => by
      have := Multiset.mem_of_le (frame_le_held hf) (Multiset.mem_coe.2 (f.pc.released_subset x hx))
      rwa [h.owned, Multiset.mem_coe] at this
    obtain ⟨hlive, hbad⟩ := f.pc.live_perform r hrel
    have hacc := f.step_held s.os.pageSize s.reg r fun _ _ _ _ hpc => (hfresh _ _ _ _ hpc).1
    have hset := framesHeld_set (f.step s.os.pageSize s.reg r).2 hf
    rw [Sys.step_allocStep hf]
    refine ⟨?_, ?_, hbad.trans h.noBadRelease, ?_⟩
    · unfold AllocPc.perform
      cases hc : f.pc.syscall with
      | none => exact h.wf
      | some c => exact h.wf.perform (hadm c hc)
    · refine (add_left_inj ((f.pc.resources : Multiset Res) + f.pc.released)).1 ?_
      have ho := h.owned
      simp only [Sys.held] at ho ⊢
      calc _ = (framesHeld (s.frames.set t (f.step s.os.pageSize s.reg r).2) + f.pc.resources) +
              (entriesHeld (f.step s.os.pageSize s.reg r).1.jitAllocationsByRw.entries +
                f.pc.released) := by abel
        _ = framesHeld s.frames + (entriesHeld (f.step s.os.pageSize s.reg r).1.jitAllocationsByRw.entries +
              (f.step s.os.pageSize s.reg r).2.pc.resources + f.pc.released) := by rw [hset]; abel
        _ = (entriesHeld s.reg.jitAllocationsByRw.entries + framesHeld s.frames) +
              f.pc.acquired r + f.pc.resources := by rw [hacc]; abel
        _ = _ := by rw [ho, ← hlive]; abel
    · rcases f.step_reg_cases s.os.pageSize s.reg r with h1 | h1 | ⟨len, fd, rw, rx, hpc, h1⟩ <;>
        simp only [h1]
      · exact h.shape
      · exact h.shape.of_maps (by simp) (by simp)
      · exact h.shape.register (hfresh _ _ _ _ hpc).1 (hfresh _ _ _ _ hpc).2

/-- Every step keeps the invariant. -/
theorem step (h : Inv s) {e : Event} (he : s.Admits e) : Inv (s.step e) := by
  cases e with
  | init => exact h.with_reg (by simp) (by simp)
  | shutdown => exact h.shutdown
  | free rw rx n => exact h.free rw rx n
  | rwToRx _ | rxToRw _ => exact h
  | pageSize => exact h.with_reg (by simp) (by simp)
  | allocCall size rwOut rxOut => exact h.allocCall size rwOut rxOut
  | allocStep t r => exact h.allocStep he

theorem initial (sc : SizeT) : Inv (Sys.initial sc) :=
  ⟨OsState.wf_initial sc, rfl, rfl, Registry.Shape.empty rfl rfl⟩

theorem reachable {s : Sys} (hs : Reachable s) : Inv s :=
  hs.induction initial fun _ _ _ h he => h.step he

end Inv

/-! ## The registry and the kernel objects in every reachable state -/

theorem Inv.rx_nodupKeys {s : Sys} (h : Inv s) : s.reg.jitAllocationsByRx.NodupKeys := by
  have hmap : (s.reg.jitAllocationsByRw.entries.map fun e => e.2.rxPtr).Nodup := by
    refine List.Nodup.map_on (fun e he e' he' heq => ?_) (h.shape.nodupKeys.of_map _)
    by_contra hne
    have hk : e.1 ≠ e'.1 := fun hk => hne (List.inj_on_of_nodup_map h.shape.nodupKeys he he' hk)
    have hap := (h.records_apart he he' hk).views e.2.rxPtr (by simp) e'.2.rxPtr (by simp)
    have := (h.record_valid he).size_pos
    have := (h.record_valid he').size_pos
    rw [heq] at hap
    simp only [Res.Apart] at hap
    omega
  have := h.shape.rxIndex.map Prod.fst
  rw [List.map_map] at this
  exact this.nodup_iff.2 hmap

/-- The registry invariant: (1) each key of the first map is its record's `rw_ptr`; (2) the
second map holds exactly one entry per record, at its `rx_ptr`, designating that record, so the
two maps have the same size and no pointer of the second dangles; (3) each record has a valid
descriptor and two non-null, disjoint views of positive length inside the address space, and no
two records share a descriptor or an address. -/
structure Registry.Invariant (g : Registry) : Prop where
  nodupKeys : g.jitAllocationsByRw.NodupKeys
  keyEq : ∀ k a, (k, a) ∈ g.jitAllocationsByRw.entries → a.rwPtr = k
  rxKeys : ∀ x, x ∈ g.jitAllocationsByRx.keys ↔ ∃ a ∈ g.records, a.rxPtr = x
  rxTarget : ∀ x k, g.jitAllocationsByRx.find x = some k →
    ∃ a, g.jitAllocationsByRw.find k = some a ∧ a.rxPtr = x
  sameSize : g.jitAllocationsByRx.entries.length = g.jitAllocationsByRw.entries.length
  valid : ∀ k a, (k, a) ∈ g.jitAllocationsByRw.entries → a.Valid
  apart : ∀ k a k' b, (k, a) ∈ g.jitAllocationsByRw.entries →
    (k', b) ∈ g.jitAllocationsByRw.entries → k ≠ k' → a.Apart b

/-- Two allocations of one page each, the second's writable view right after the first's. -/
def adjacentAllocs : List Event :=
  [.allocCall 4096 (some 0) (some 0), .allocStep 0 .ignored, .allocStep 0 .ignored,
    .allocStep 0 .ignored, .allocStep 0 ⟨3, 0⟩, .allocStep 0 ⟨0, 0⟩, .allocStep 0 ⟨0, 0x10000⟩,
    .allocStep 0 ⟨0, 0x20000⟩, .allocStep 0 .ignored,
   .allocCall 4096 (some 0) (some 0), .allocStep 1 .ignored, .allocStep 1 .ignored,
    .allocStep 1 ⟨4, 0⟩, .allocStep 1 ⟨0, 0⟩, .allocStep 1 ⟨0, 0x11000⟩,
    .allocStep 1 ⟨0, 0x21000⟩, .allocStep 1 .ignored]

theorem reachable_adjacentAllocs : Reachable ((Sys.initial 4096).run adjacentAllocs) :=
  (Reachable.init 4096).run (by decide)

/-- The registry invariant holds in every state reachable under any interleaving of the six
functions with any arguments. -/
theorem registry_invariant {s : Sys} (hs : Reachable s) : s.reg.Invariant := by
  have h := Inv.reachable hs
  refine ⟨h.shape.nodupKeys, h.shape.keyEq, fun x => ?_, fun x k hx => ?_, by
    simpa using h.shape.rxIndex.length_eq, fun _ _ => h.record_valid,
    fun _ _ _ _ => h.records_apart⟩
  · simp only [StdMap.mem_keys, h.shape.rxIndex.mem_iff, List.mem_map, Registry.records,
      Prod.mk.injEq, Prod.exists]
    constructor
    · rintro ⟨k, k', a, ha, rfl, rfl⟩
      exact ⟨a, ⟨k', a, ha, rfl⟩, rfl⟩
    · rintro ⟨a, ⟨k', _, ha, rfl⟩, rfl⟩
      exact ⟨k', k', _, ha, rfl, rfl⟩
  · obtain ⟨⟨k', a⟩, ha, he⟩ := List.mem_map.1
      (h.shape.rxIndex.mem_iff.1 ((StdMap.find_eq_some_iff h.rx_nodupKeys).1 hx))
    cases he
    exact ⟨a, (StdMap.find_eq_some_iff h.shape.nodupKeys).2 ha, rfl⟩

theorem registry_invariant_adjacentAllocs :
    Reachable ((Sys.initial 4096).run adjacentAllocs) ∧
      ((Sys.initial 4096).run adjacentAllocs).reg.Invariant :=
  ⟨reachable_adjacentAllocs, registry_invariant reachable_adjacentAllocs⟩

/-- No leak and no double release: every live descriptor and mapping has exactly one owner,
a registry record or an in-flight `android_jit_alloc` call, and nothing else is owned; no
`close` or `munmap` was ever applied to something not live; with no call in flight, the live
objects are exactly the records' descriptors and views. -/
structure Sys.Ownership (s : Sys) : Prop where
  owners : ∀ x : Res, (entriesHeld s.reg.jitAllocationsByRw.entries).count x +
    (framesHeld s.frames).count x = if x ∈ s.os.live then 1 else 0
  noBadRelease : s.os.badRelease = false
  idle : (∀ f ∈ s.frames, ∃ r, f.pc = .done r) →
    (s.os.live : Multiset Res) = entriesHeld s.reg.jitAllocationsByRw.entries

theorem no_leak_no_double_release {s : Sys} (hs : Reachable s) : s.Ownership := by
  have h := Inv.reachable hs
  refine ⟨fun x => ?_, h.noBadRelease, fun hdone => ?_⟩
  · rw [← Multiset.count_add, ← Sys.held, h.owned]
    split_ifs with hx
    · exact Multiset.count_eq_one_of_mem h.nodup (Multiset.mem_coe.2 hx)
    · exact Multiset.count_eq_zero_of_not_mem (by simpa using hx)
  · have hf : framesHeld s.frames = 0 := by
      refine List.sum_eq_zero fun m hm => ?_
      obtain ⟨f, hf, rfl⟩ := List.mem_map.1 hm
      obtain ⟨r, hr⟩ := hdone f hf
      simp [hr, AllocPc.resources]
    rw [← h.owned, Sys.held, hf, add_zero]

theorem no_leak_no_double_release_adjacentAllocs :
    Reachable ((Sys.initial 4096).run adjacentAllocs) ∧
      ((Sys.initial 4096).run adjacentAllocs).Ownership :=
  ⟨reachable_adjacentAllocs, no_leak_no_double_release reachable_adjacentAllocs⟩

end AndroidJit

import AmiberryAndroid.Jit.Translate

/-!
# `android_jit_free` changes exactly one allocation

**Theorem (`free_changes_one_allocation`).** In a reachable state, let `rw` be the `rw_ptr` of
an open allocation `A`. Then `android_jit_free(rw, rx', n)` removes `A` from both maps and
nothing else, unmaps `A`'s two views with `A`'s size and closes `A`'s descriptor, whatever
`rx'` and `n` are; every other open allocation stays in both maps with the same translations,
and `rw` is no longer a key, so a second identical call does nothing. If `rw` is not the base
of an open allocation, the call changes nothing and releases nothing.

The record is found by `rw` alone; `rx'` is compared only for the log. The second map is
erased at the record's own `rx_ptr`, which no other record has.
-/

namespace AndroidJit

/-- What `android_jit_free(rw, rx', n)` does in state `s`: if `rw` is the key of a record `a`,
it erases `a` from both maps and releases `a`'s views and descriptor, every other record stays
in both maps with the same translations, and `rw` is no longer a key; otherwise it changes
nothing and releases nothing. -/
structure Sys.FreeEffect (s : Sys) (rw rx' : Ptr) (n : SizeT) : Prop where
  found : ∀ a, s.reg.jitAllocationsByRw.find rw = some a →
    androidJitFree s.reg rw rx' n =
        ({ s.reg with jitAllocationsByRx := s.reg.jitAllocationsByRx.erase a.rxPtr,
                      jitAllocationsByRw := s.reg.jitAllocationsByRw.erase rw },
          [.munmap a.rwPtr a.size, .munmap a.rxPtr a.size, .close a.fd]) ∧
      (∀ b ∈ s.reg.records, b ≠ a →
        b ∈ (s.step (.free rw rx' n)).reg.records ∧
        (b.rxPtr, b.rwPtr) ∈ (s.step (.free rw rx' n)).reg.jitAllocationsByRx.entries ∧
        (∀ x, InView b.rwPtr b.size x →
          androidJitRwToRx (s.step (.free rw rx' n)).reg x = androidJitRwToRx s.reg x) ∧
        (∀ y, InView b.rxPtr b.size y →
          androidJitRxToRw (s.step (.free rw rx' n)).reg y = androidJitRxToRw s.reg y)) ∧
      (s.step (.free rw rx' n)).reg.jitAllocationsByRw.find rw = none
  notFound : s.reg.jitAllocationsByRw.find rw = none →
    androidJitFree s.reg rw rx' n = (s.reg, [])

theorem free_changes_one_allocation {s : Sys} (hs : Reachable s) (rw rx' : Ptr) (n : SizeT) :
    s.FreeEffect rw rx' n := by
  have h := Inv.reachable hs
  have h' := Inv.reachable (hs.step (e := .free rw rx' n) trivial)
  refine ⟨fun a hf => ?_, fun hf => ?_⟩
  · have ha := (StdMap.find_eq_some_iff h.shape.nodupKeys).1 hf
    have hva := h.record_valid ha
    have h0 : ¬(rw = 0 ∧ rx' = 0) := fun h0 => hva.rw_ne (h.shape.keyEq _ _ ha ▸ h0.1)
    have hfree : androidJitFree s.reg rw rx' n =
        ({ s.reg with jitAllocationsByRx := s.reg.jitAllocationsByRx.erase a.rxPtr,
                      jitAllocationsByRw := s.reg.jitAllocationsByRw.erase rw },
          [.munmap a.rwPtr a.size, .munmap a.rxPtr a.size, .close a.fd]) := by
      rw [androidJitFree, if_neg h0, hf]
      simp only [releaseCalls_eq hva]
      rfl
    have hreg : (s.step (.free rw rx' n)).reg =
        { s.reg with jitAllocationsByRx := s.reg.jitAllocationsByRx.erase a.rxPtr,
                     jitAllocationsByRw := s.reg.jitAllocationsByRw.erase rw } := by
      simp only [Sys.step, hfree]
    refine ⟨hfree, fun b hb hne => ?_, ?_⟩
    · obtain ⟨k, hkb⟩ := Registry.mem_records.1 hb
      have hk : k ≠ rw := fun hk => hne (by
        subst hk
        exact Option.some.inj (((StdMap.find_eq_some_iff h.shape.nodupKeys).2 hkb).symm.trans hf))
      have hbmem : b ∈ (s.step (.free rw rx' n)).reg.records := by
        rw [hreg]
        exact Registry.mem_records.2 ⟨k, StdMap.mem_erase.2 ⟨hkb, hk⟩⟩
      have hrxne : b.rxPtr ≠ a.rxPtr := fun heq => by
        have hap := (h.records_apart hkb ha hk).views b.rxPtr (by simp) a.rxPtr (by simp)
        have := (h.record_valid hkb).size_pos
        have := hva.size_pos
        rw [heq] at hap
        simp only [Res.Apart] at hap
        omega
      refine ⟨hbmem, ?_, fun x hx => BitVec.eq_of_toNat_eq ?_, fun y hy => BitVec.eq_of_toNat_eq ?_⟩
      · rw [hreg]
        refine StdMap.mem_erase.2 ⟨h.shape.rxIndex.mem_iff.2 (List.mem_map.2 ⟨(k, b), hkb, ?_⟩), hrxne⟩
        rw [h.shape.keyEq _ _ hkb]
      · rw [h'.rwToRx_of_inView hbmem hx, h.rwToRx_of_inView hb hx]
      · rw [h'.rxToRw_of_inView hbmem hy, h.rxToRw_of_inView hb hy]
    · rw [hreg, StdMap.find_eq_none_iff, StdMap.mem_keys]
      rintro ⟨v, hv⟩
      exact (StdMap.mem_erase.1 hv).2 rfl
  · unfold androidJitFree
    split_ifs
    · rfl
    · rw [hf]

/-- Freeing the first of the two adjacent allocations, passing the second's executable view. -/
theorem free_changes_one_allocation_adjacentAllocs :
    Reachable ((Sys.initial 4096).run adjacentAllocs) ∧
      ((Sys.initial 4096).run adjacentAllocs).FreeEffect 0x10000 0x21000 0 :=
  ⟨reachable_adjacentAllocs, free_changes_one_allocation reachable_adjacentAllocs 0x10000 0x21000 0⟩

end AndroidJit

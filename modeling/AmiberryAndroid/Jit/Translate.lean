import AmiberryAndroid.Jit.Preservation

/-!
# Translating between the two views

**Theorem (`translation_correct`).** In every reachable state, `android_jit_rw_to_rx(x)` is
`rx_ptr + (x - rw_ptr)` when `x` lies in the writable view `[rw_ptr, rw_ptr + size)` of an
open allocation, and null otherwise; `android_jit_rx_to_rw` is the same with the views
exchanged. So the two are inverse on the views, null for null and for every address of the
other view, and `rw_ptr + size` is null exactly when no open allocation's writable view covers
it (the next allocation may begin there: `rwToRx_end_of_view_not_null`).

Both functions try an exact key first and then scan `g_jit_allocations_by_rw`. The scan
(`scanViews`) returns its first hit, so it is right when at most one record contains the
address (`scanViews_of_inView`); the invariant gives that, since the views of all records are
pairwise apart. The fast paths agree with the scan because a key is its record's base, and a
base lies in its own view.
-/

namespace AndroidJit

/-- `x` lies in `[base, base + size)`, as integers. -/
def InView (base : Ptr) (size : SizeT) (x : Ptr) : Prop :=
  base.toNat ≤ x.toNat ∧ x.toNat < base.toNat + size.toNat

instance (base : Ptr) (size : SizeT) (x : Ptr) : Decidable (InView base size x) :=
  inferInstanceAs (Decidable (_ ∧ _))

theorem inView_iff {base : Ptr} {size : SizeT} {x : Ptr} (h : base.toNat + size.toNat < 2 ^ 64) :
    inView base size x = true ↔ InView base size x := by
  unfold inView InView
  rw [Bool.and_eq_true, decide_eq_true_eq, decide_eq_true_eq, BitVec.le_def, BitVec.lt_def,
    BitVec.toNat_add, Nat.mod_eq_of_lt h]

/-- The offset arithmetic of the translation does not wrap. -/
theorem toNat_add_sub {dst src x : Ptr} {size : SizeT} (hx : InView src size x)
    (hd : dst.toNat + size.toNat < 2 ^ 64) :
    (dst + (x - src)).toNat = dst.toNat + (x.toNat - src.toNat) := by
  rw [BitVec.toNat_add, BitVec.toNat_sub_of_le (BitVec.le_def.2 hx.1)]
  exact Nat.mod_eq_of_lt (by unfold InView at hx; omega)

theorem inView_base {base : Ptr} {size : SizeT} (h : 0 < size.toNat) : InView base size base :=
  ⟨le_rfl, by omega⟩

/-! ## The scan -/

section Scan

variable {g : Registry} {src dst : JitAllocation → Ptr} {x : Ptr}

theorem scanViews_of_inView
    (hend : ∀ e ∈ g.jitAllocationsByRw.entries, (src e.2).toNat + e.2.size.toNat < 2 ^ 64)
    (huniq : ∀ e ∈ g.jitAllocationsByRw.entries, ∀ e' ∈ g.jitAllocationsByRw.entries,
      InView (src e.2) e.2.size x → InView (src e'.2) e'.2.size x → e = e')
    {e : Ptr × JitAllocation} (he : e ∈ g.jitAllocationsByRw.entries)
    (hx : InView (src e.2) e.2.size x) : scanViews g src dst x = dst e.2 + (x - src e.2) := by
  unfold scanViews
  cases hf : g.jitAllocationsByRw.entries.find? (fun e => inView (src e.2) e.2.size x) with
  | none =>
    exact absurd ((inView_iff (hend e he)).2 hx) (by simpa using List.find?_eq_none.1 hf e he)
  | some e' =>
    have he' := List.mem_of_find?_eq_some hf
    have hp := List.find?_some hf
    have hx' := (inView_iff (hend e' he')).1 hp
    rw [huniq e' he' e he hx' hx]

theorem scanViews_of_not_inView
    (hend : ∀ e ∈ g.jitAllocationsByRw.entries, (src e.2).toNat + e.2.size.toNat < 2 ^ 64)
    (hx : ∀ e ∈ g.jitAllocationsByRw.entries, ¬InView (src e.2) e.2.size x) :
    scanViews g src dst x = 0 := by
  unfold scanViews
  rw [List.find?_eq_none.2 fun e he h => hx e he ((inView_iff (hend e he)).1 h)]

end Scan

/-! ## In the reachable states -/

namespace Inv

variable {s : Sys}

/-- At most one view of one record contains an address. -/
theorem view_unique (h : Inv s) (src src' : JitAllocation → Ptr)
    (hs : ∀ a, src a ∈ [a.rwPtr, a.rxPtr]) (hs' : ∀ a, src' a ∈ [a.rwPtr, a.rxPtr])
    {e e' : Ptr × JitAllocation} (he : e ∈ s.reg.jitAllocationsByRw.entries)
    (he' : e' ∈ s.reg.jitAllocationsByRw.entries) {x : Ptr}
    (hx : InView (src e.2) e.2.size x) (hx' : InView (src' e'.2) e'.2.size x) :
    e = e' ∧ src e.2 = src' e'.2 := by
  by_cases hk : e.1 = e'.1
  · obtain rfl := List.inj_on_of_nodup_map h.shape.nodupKeys he he' hk
    refine ⟨rfl, ?_⟩
    have hv := (h.record_valid he).views_apart
    have := hs e.2
    have := hs' e.2
    simp only [List.mem_cons, List.mem_singleton, List.not_mem_nil, or_false] at *
    unfold InView at hx hx'
    rcases ‹src e.2 = _ ∨ _› with h1 | h1 <;> rcases ‹src' e.2 = _ ∨ _› with h2 | h2 <;>
      simp only [h1, h2, Res.Apart] at hx hx' hv ⊢ <;> omega
  · have hap := (h.records_apart he he' hk).views _ (hs e.2) _ (hs' e'.2)
    unfold InView at hx hx'
    simp only [Res.Apart] at hap
    omega

theorem scan_end (h : Inv s) (src : JitAllocation → Ptr) (hs : ∀ a, src a ∈ [a.rwPtr, a.rxPtr]) :
    ∀ e ∈ s.reg.jitAllocationsByRw.entries, (src e.2).toNat + e.2.size.toNat < 2 ^ 64 := by
  intro e he
  have hv := h.record_valid (show (e.1, e.2) ∈ _ from he)
  have := hs e.2
  simp only [List.mem_cons, List.mem_singleton, List.not_mem_nil, or_false] at this
  rcases this with h1 | h1 <;> rw [h1]
  exacts [hv.rw_end, hv.rx_end]

theorem scan_unique (h : Inv s) (src : JitAllocation → Ptr) (hs : ∀ a, src a ∈ [a.rwPtr, a.rxPtr])
    {x : Ptr} : ∀ e ∈ s.reg.jitAllocationsByRw.entries, ∀ e' ∈ s.reg.jitAllocationsByRw.entries,
      InView (src e.2) e.2.size x → InView (src e'.2) e'.2.size x → e = e' :=
  fun _ he _ he' hx hx' => (h.view_unique src src hs hs he he' hx hx').1

/-- The record an entry of the second map designates. -/
theorem rx_entry (h : Inv s) {x k : Ptr} (hk : (x, k) ∈ s.reg.jitAllocationsByRx.entries) :
    ∃ a, (k, a) ∈ s.reg.jitAllocationsByRw.entries ∧ a.rxPtr = x := by
  obtain ⟨⟨k', a⟩, ha, he⟩ := List.mem_map.1 (h.shape.rxIndex.mem_iff.1 hk)
  cases he
  exact ⟨a, ha, rfl⟩

theorem ne_zero_of_inView (h : Inv s) {k : Ptr} {a : JitAllocation}
    (ha : (k, a) ∈ s.reg.jitAllocationsByRw.entries) {p x : Ptr} (hp : p = a.rwPtr ∨ p = a.rxPtr)
    (hx : InView p a.size x) : x ≠ 0 := by
  have hv := h.record_valid ha
  have hp0 : p ≠ 0 := by rcases hp with rfl | rfl; exacts [hv.rw_ne, hv.rx_ne]
  rintro rfl
  exact hp0 (BitVec.eq_of_toNat_eq (by unfold InView at hx; simp at hx ⊢; omega))

theorem rwToRx_of_inView (h : Inv s) {a : JitAllocation} (ha : a ∈ s.reg.records) {x : Ptr}
    (hx : InView a.rwPtr a.size x) :
    (androidJitRwToRx s.reg x).toNat = a.rxPtr.toNat + (x.toNat - a.rwPtr.toNat) := by
  obtain ⟨k, hka⟩ := Registry.mem_records.1 ha
  have hv := h.record_valid hka
  unfold androidJitRwToRx
  rw [if_neg (h.ne_zero_of_inView hka (.inl rfl) hx)]
  cases hf : s.reg.jitAllocationsByRw.find x with
  | some b =>
    have hb := (StdMap.find_eq_some_iff h.shape.nodupKeys).1 hf
    have hbx := h.shape.keyEq _ _ hb
    have hbv : InView b.rwPtr b.size x := hbx ▸ inView_base (h.record_valid hb).size_pos
    obtain ⟨he, -⟩ := h.view_unique JitAllocation.rwPtr JitAllocation.rwPtr (by simp) (by simp)
      hb hka hbv hx
    obtain ⟨rfl, rfl⟩ := Prod.mk.inj he
    simp [hbx]
  | none =>
    simp only
    rw [scanViews_of_inView (h.scan_end _ (by simp)) (h.scan_unique _ (by simp)) hka hx]
    exact toNat_add_sub hx hv.rx_end

theorem rwToRx_of_not_inView (h : Inv s) {x : Ptr}
    (hx : ∀ a ∈ s.reg.records, ¬InView a.rwPtr a.size x) : androidJitRwToRx s.reg x = 0 := by
  unfold androidJitRwToRx
  split_ifs with hx0
  · rfl
  cases hf : s.reg.jitAllocationsByRw.find x with
  | some b =>
    have hb := (StdMap.find_eq_some_iff h.shape.nodupKeys).1 hf
    exact absurd ((h.shape.keyEq _ _ hb) ▸ inView_base (h.record_valid hb).size_pos)
      (hx b (Registry.mem_records.2 ⟨x, hb⟩))
  | none =>
    exact scanViews_of_not_inView (h.scan_end JitAllocation.rwPtr (by simp))
      fun e he => hx e.2 (Registry.mem_records.2 ⟨e.1, he⟩)

theorem rxToRw_of_inView (h : Inv s) {a : JitAllocation} (ha : a ∈ s.reg.records) {y : Ptr}
    (hy : InView a.rxPtr a.size y) :
    (androidJitRxToRw s.reg y).toNat = a.rwPtr.toNat + (y.toNat - a.rxPtr.toNat) := by
  obtain ⟨k, hka⟩ := Registry.mem_records.1 ha
  have hv := h.record_valid hka
  unfold androidJitRxToRw
  rw [if_neg (h.ne_zero_of_inView hka (.inr rfl) hy)]
  cases hf : s.reg.jitAllocationsByRx.find y with
  | some k' =>
    obtain ⟨b, hb, hby⟩ := h.rx_entry ((StdMap.find_eq_some_iff h.rx_nodupKeys).1 hf)
    have hbv : InView b.rxPtr b.size y := hby ▸ inView_base (h.record_valid hb).size_pos
    obtain ⟨he, -⟩ := h.view_unique JitAllocation.rxPtr JitAllocation.rxPtr (by simp) (by simp)
      hb hka hbv hy
    obtain ⟨rfl, rfl⟩ := Prod.mk.inj he
    simp [(StdMap.find_eq_some_iff h.shape.nodupKeys).2 hb, hby]
  | none =>
    simp only
    rw [scanViews_of_inView (h.scan_end _ (by simp)) (h.scan_unique _ (by simp)) hka hy]
    exact toNat_add_sub hy hv.rw_end

theorem rxToRw_of_not_inView (h : Inv s) {y : Ptr}
    (hy : ∀ a ∈ s.reg.records, ¬InView a.rxPtr a.size y) : androidJitRxToRw s.reg y = 0 := by
  unfold androidJitRxToRw
  split_ifs with hy0
  · rfl
  cases hf : s.reg.jitAllocationsByRx.find y with
  | some k =>
    obtain ⟨b, hb, hby⟩ := h.rx_entry ((StdMap.find_eq_some_iff h.rx_nodupKeys).1 hf)
    exact absurd (hby ▸ inView_base (h.record_valid hb).size_pos) (hy b (Registry.mem_records.2 ⟨k, hb⟩))
  | none =>
    exact scanViews_of_not_inView (h.scan_end JitAllocation.rxPtr (by simp))
      fun e he => hy e.2 (Registry.mem_records.2 ⟨e.1, he⟩)

/-- No writable view meets an executable view. -/
theorem not_inView_rw_of_inView_rx (h : Inv s) {a b : JitAllocation} (ha : a ∈ s.reg.records)
    (hb : b ∈ s.reg.records) {y : Ptr} (hy : InView a.rxPtr a.size y) : ¬InView b.rwPtr b.size y := by
  intro hy'
  obtain ⟨k, hka⟩ := Registry.mem_records.1 ha
  obtain ⟨k', hkb⟩ := Registry.mem_records.1 hb
  obtain ⟨he, hsrc⟩ := h.view_unique JitAllocation.rxPtr JitAllocation.rwPtr (by simp) (by simp)
    hka hkb hy hy'
  obtain ⟨rfl, rfl⟩ := Prod.mk.inj he
  have hv := h.record_valid hka
  have := hv.views_apart
  simp only [Res.Apart] at this
  simp only at hsrc
  rw [hsrc] at this
  have := hv.size_pos
  omega

end Inv

/-- Translation as the claims state it: both functions are the offset map between the views
of the open allocation that contains the address, and null where none does; hence null for
null and for the other view's addresses, null at `rw_ptr + size` exactly when no writable view
covers it, and each function undoes the other on the views. -/
structure Registry.Translation (g : Registry) : Prop where
  rwToRx_inView : ∀ a ∈ g.records, ∀ x, InView a.rwPtr a.size x →
    (androidJitRwToRx g x).toNat = a.rxPtr.toNat + (x.toNat - a.rwPtr.toNat)
  rwToRx_outside : ∀ x, (∀ a ∈ g.records, ¬InView a.rwPtr a.size x) → androidJitRwToRx g x = 0
  rxToRw_inView : ∀ a ∈ g.records, ∀ y, InView a.rxPtr a.size y →
    (androidJitRxToRw g y).toNat = a.rwPtr.toNat + (y.toNat - a.rxPtr.toNat)
  rxToRw_outside : ∀ y, (∀ a ∈ g.records, ¬InView a.rxPtr a.size y) → androidJitRxToRw g y = 0
  rwToRx_null : androidJitRwToRx g 0 = 0
  rxToRw_null : androidJitRxToRw g 0 = 0
  rwToRx_rxView : ∀ a ∈ g.records, ∀ y, InView a.rxPtr a.size y → androidJitRwToRx g y = 0
  rxToRw_rwView : ∀ a ∈ g.records, ∀ x, InView a.rwPtr a.size x → androidJitRxToRw g x = 0
  rwToRx_end : ∀ a ∈ g.records, androidJitRwToRx g (a.rwPtr + a.size) = 0 ↔
    ∀ b ∈ g.records, ¬InView b.rwPtr b.size (a.rwPtr + a.size)
  rxToRw_rwToRx : ∀ a ∈ g.records, ∀ x, InView a.rwPtr a.size x →
    androidJitRxToRw g (androidJitRwToRx g x) = x
  rwToRx_rxToRw : ∀ a ∈ g.records, ∀ y, InView a.rxPtr a.size y →
    androidJitRwToRx g (androidJitRxToRw g y) = y

theorem translation_correct {s : Sys} (hs : Reachable s) : s.reg.Translation := by
  have h := Inv.reachable hs
  have hv : ∀ a ∈ s.reg.records, a.Valid := fun a ha =>
    h.record_valid (Registry.mem_records.1 ha).choose_spec
  -- the translation of an address of a view lies in the other view
  have hrx : ∀ a ∈ s.reg.records, ∀ x, InView a.rwPtr a.size x →
      InView a.rxPtr a.size (androidJitRwToRx s.reg x) := fun a ha x hx => by
    have := h.rwToRx_of_inView ha hx
    unfold InView at hx ⊢
    omega
  have hrw : ∀ a ∈ s.reg.records, ∀ y, InView a.rxPtr a.size y →
      InView a.rwPtr a.size (androidJitRxToRw s.reg y) := fun a ha y hy => by
    have := h.rxToRw_of_inView ha hy
    unfold InView at hy ⊢
    omega
  refine ⟨fun a ha x => h.rwToRx_of_inView ha, fun x => h.rwToRx_of_not_inView,
    fun a ha y => h.rxToRw_of_inView ha, fun y => h.rxToRw_of_not_inView,
    by simp [androidJitRwToRx], by simp [androidJitRxToRw],
    fun a ha y hy => h.rwToRx_of_not_inView fun b hb => h.not_inView_rw_of_inView_rx ha hb hy,
    fun a ha x hx => h.rxToRw_of_not_inView fun b hb hb' => h.not_inView_rw_of_inView_rx hb ha hb' hx,
    fun a _ => ⟨fun h0 b hb hbx => ?_, h.rwToRx_of_not_inView⟩,
    fun a ha x hx => BitVec.eq_of_toNat_eq ?_, fun a ha y hy => BitVec.eq_of_toNat_eq ?_⟩
  · have := h.rwToRx_of_inView hb hbx
    rw [h0] at this
    have := (hv b hb).rx_ne
    exact this (BitVec.eq_of_toNat_eq (by simp at *; omega))
  · have h1 := h.rwToRx_of_inView ha hx
    have h2 := h.rxToRw_of_inView ha (hrx a ha x hx)
    unfold InView at hx
    omega
  · have h1 := h.rxToRw_of_inView ha hy
    have h2 := h.rwToRx_of_inView ha (hrw a ha y hy)
    unfold InView at hy
    omega

theorem translation_correct_adjacentAllocs :
    Reachable ((Sys.initial 4096).run adjacentAllocs) ∧
      ((Sys.initial 4096).run adjacentAllocs).reg.Translation :=
  ⟨reachable_adjacentAllocs, translation_correct reachable_adjacentAllocs⟩

/-- One past the end of an open allocation's writable view need not translate to null: there
the next allocation's writable view may begin. -/
theorem rwToRx_end_of_view_not_null :
    Reachable ((Sys.initial 4096).run adjacentAllocs) ∧
    (⟨0x10000, 0x20000, 4096, 3⟩ : JitAllocation) ∈
      ((Sys.initial 4096).run adjacentAllocs).reg.records ∧
    androidJitRwToRx ((Sys.initial 4096).run adjacentAllocs).reg (0x10000 + 4096) = 0x21000 :=
  ⟨reachable_adjacentAllocs, by decide, by decide⟩

end AndroidJit

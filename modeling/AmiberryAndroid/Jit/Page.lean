import AmiberryAndroid.Jit.Preservation

/-!
# Page rounding in the running allocator

**Theorem (`page_rounding`).** Let `p`, the value of `g_page_size`, be a power of two. Then
`round_up_to_page` is a multiple of `p`, the least one at or above the request when the sum
`s + p - 1` does not wrap, and `0` when it does or when `s = 0` (`Word`). In every reachable
state where `g_page_size` is `p`, every length an `android_jit_alloc` call passes to
`ftruncate`, `mmap` or `munmap` is `round_up_to_page` of its request, a call about to register
got a length at least its request, its register step stores that rounding as the new record's
size, and every record's size is a positive multiple of `p`.

`g_page_size` is written by `android_jit_init` and `android_jit_page_size` only, both times with
the probed size, and `android_jit_shutdown` leaves it alone. So the invariant `Sys.PageInv` is:

* *page size*: `g_page_size` is `0` or the probed size, and the probed size once
  `g_initialized` is set;
* *calls*: a call at `round` reads the probed size, and a call's `alloc_size` is the rounding
  of its request by the probed size;
* *records*: every record's size is such a rounding.

No step needs the kernel's contract for this; the bound `size ≤ alloc_size` of a registered
call comes from the allocator invariant, which says that its mappings have positive length.
-/

namespace AndroidJit

/-- A call's locals agree with `g_page_size`: it reads the probed size `P` at `round`, and the
`alloc_size` it computed is its request rounded by `P`. -/
structure AllocFrame.PageOk (P pageSize : SizeT) (f : AllocFrame) : Prop where
  round : f.pc = .round → pageSize = P
  len : ∀ L ∈ f.pc.len?, L = roundUpToPage P f.size

/-- The page-size invariant, for the probed size of the run's `sysconf`. -/
structure Sys.PageInv (s : Sys) : Prop where
  pageSize : s.reg.pageSize = 0 ∨ s.reg.pageSize = probePageSize s.os.pageSize
  initialized : s.reg.initialized = true → s.reg.pageSize = probePageSize s.os.pageSize
  frames : ∀ f ∈ s.frames, f.PageOk (probePageSize s.os.pageSize) s.reg.pageSize
  records : ∀ a ∈ s.reg.records, ∃ n, a.size = roundUpToPage (probePageSize s.os.pageSize) n

/-! ## One step of a call -/

namespace AllocFrame

variable {P sc : SizeT} {g : Registry} {f : AllocFrame}

theorem PageOk.mono {q q' : SizeT} (h : f.PageOk P q) (hq : q' = q ∨ q' = P) : f.PageOk P q' :=
  ⟨fun hr => hq.elim (fun e => e.trans (h.round hr)) id, h.len⟩

/-- What a step does to `g_page_size` and `g_initialized`: `g_page_size` stays, or becomes the
probed size, and is the probed size whenever `g_initialized` is set. -/
theorem pageSize_step (hinit : g.initialized = true → g.pageSize = probePageSize sc)
    (r : Reply) :
    ((f.step sc g r).1.pageSize = g.pageSize ∨ (f.step sc g r).1.pageSize = probePageSize sc) ∧
      ((f.step sc g r).1.initialized = true → (f.step sc g r).1.pageSize = probePageSize sc) := by
  rcases f.step_reg_cases sc g r with h1 | h1 | ⟨len, fd, rw, rx, -, h1⟩ <;> rw [h1]
  · exact ⟨.inl rfl, hinit⟩
  · exact ⟨.inr (androidJitInit_pageSize hinit), fun _ => androidJitInit_pageSize hinit⟩
  · exact ⟨.inl rfl, hinit⟩

theorem PageOk.step (hf : f.PageOk (probePageSize sc) g.pageSize)
    (hinit : g.initialized = true → g.pageSize = probePageSize sc) (r : Reply) :
    (f.step sc g r).2.PageOk (probePageSize sc) (f.step sc g r).1.pageSize := by
  refine ⟨fun hr => (pageSize_step hinit r).2 (initialized_of_step_round hr), fun L hL => ?_⟩
  rw [size_step]
  rcases len_step sc g f r L hL with hL | ⟨hr, rfl⟩
  · exact hf.len L hL
  · rw [hf.round hr]

end AllocFrame

/-! ## Every step keeps the invariant -/

namespace Sys.PageInv

variable {s : Sys}

/-- A step that keeps `sysconf`, changes `g_page_size` only to the probed size, adds only
records and calls that agree with it, and sets `g_initialized` only with the probed size,
keeps the invariant. -/
theorem of_parts (h : s.PageInv) {g : Registry} {os : OsState} {fs : List AllocFrame}
    (hos : os.pageSize = s.os.pageSize)
    (hps : g.pageSize = s.reg.pageSize ∨ g.pageSize = probePageSize s.os.pageSize)
    (hinit : g.initialized = true → g.pageSize = probePageSize s.os.pageSize)
    (hfs : ∀ f ∈ fs, f ∈ s.frames ∨ f.PageOk (probePageSize s.os.pageSize) g.pageSize)
    (hrec : ∀ a ∈ g.records,
      a ∈ s.reg.records ∨ ∃ n, a.size = roundUpToPage (probePageSize s.os.pageSize) n) :
    PageInv ⟨g, os, fs⟩ where
  pageSize := by
    rw [hos]
    rcases hps with hps | hps
    · exact hps ▸ h.pageSize
    · exact .inr hps
  initialized := hos ▸ hinit
  frames f hf := hos ▸ (hfs f hf).elim (fun hf => (h.frames f hf).mono hps) id
  records a ha := hos ▸ (hrec a ha).elim (h.records a) id

theorem allocStep (h : s.PageInv) (t : Nat) (r : Reply) : (s.step (.allocStep t r)).PageInv := by
  cases hf : s.frames[t]? with
  | none => rwa [Sys.step_allocStep_none hf]
  | some f =>
    rw [Sys.step_allocStep hf]
    have hok := h.frames f (List.getElem?_mem hf)
    have hps := AllocFrame.pageSize_step (f := f) h.initialized r
    refine h.of_parts (by simp) hps.1 hps.2 (fun f' hf' => ?_) fun a ha => ?_
    · rcases List.mem_or_eq_of_mem_set hf' with hf' | rfl
      · exact .inl hf'
      · exact .inr (hok.step h.initialized r)
    · rcases f.step_reg_cases s.os.pageSize s.reg r with h1 | h1 | ⟨len, fd, rw, rx, hpc, h1⟩ <;>
        rw [h1] at ha
      · exact .inl ha
      · exact .inl (by simpa [Registry.records] using ha)
      · rcases Registry.mem_records_register ha with rfl | ha
        · exact .inr ⟨f.size, hok.len len (by simp [hpc, AllocPc.len?])⟩
        · exact .inl ha

theorem step (h : s.PageInv) (e : Event) : (s.step e).PageInv := by
  cases e with
  | init =>
    exact h.of_parts rfl (.inr (androidJitInit_pageSize h.initialized))
      (fun _ => androidJitInit_pageSize h.initialized) (fun f hf => .inl hf)
      fun a ha => .inl (by simpa [Registry.records] using ha)
  | shutdown =>
    exact h.of_parts (by simp) (.inl rfl) (by simp [androidJitShutdown]) (fun f hf => .inl hf)
      fun a ha => by simp [androidJitShutdown, Registry.records] at ha
  | free rw rx n =>
    exact h.of_parts (by simp) (.inl (by simp)) (by simpa using h.initialized)
      (fun f hf => .inl hf) fun a ha => .inl (mem_records_androidJitFree ha)
  | rwToRx _ | rxToRw _ => exact h
  | pageSize =>
    refine h.of_parts rfl ?_ ?_ (fun f hf => .inl hf)
      fun a ha => .inl (by simpa [Registry.records] using ha) <;>
      unfold androidJitPageSize <;> split_ifs with h0
    · exact .inr rfl
    · exact .inl rfl
    · exact fun _ => rfl
    · exact h.initialized
  | allocCall size rwOut rxOut =>
    have hstart : (AllocFrame.start size rwOut rxOut).PageOk (probePageSize s.os.pageSize)
        s.reg.pageSize := by
      unfold AllocFrame.start
      split <;> exact ⟨nofun, by simp [AllocPc.len?]⟩
    exact h.of_parts rfl (.inl rfl) h.initialized
      (fun f hf => (List.mem_append.1 hf).imp_right fun hf => by simpa [List.mem_singleton.1 hf])
      fun a ha => .inl ha
  | allocStep t r => exact h.allocStep t r

theorem initial (sc : SizeT) : (Sys.initial sc).PageInv :=
  ⟨.inl rfl, nofun, nofun, nofun⟩

theorem reachable {s : Sys} (hs : Reachable s) : s.PageInv :=
  hs.induction initial fun _ e _ h _ => h.step e

end Sys.PageInv

/-! ## Page rounding -/

/-- A nonzero rounding is at least the request. -/
theorem le_roundUpToPage {p s : SizeT} (hp : p.toNat.isPowerOfTwo) (h : roundUpToPage p s ≠ 0) :
    s.toNat ≤ (roundUpToPage p s).toNat := by
  by_cases hz : s.toNat = 0 ∨ 2 ^ 64 - p.toNat < s.toNat
  · exact absurd (roundUpToPage_eq_zero hp hz) h
  · exact (roundUpToPage_least hp (by omega) (by omega)).1

/-- Page rounding, as arithmetic and in the running allocator, for the page size `p`. -/
structure PageRounding (p : SizeT) : Prop where
  dvd : ∀ s, p.toNat ∣ (roundUpToPage p s).toNat
  least : ∀ s : SizeT, 1 ≤ s.toNat → s.toNat ≤ 2 ^ 64 - p.toNat →
    s.toNat ≤ (roundUpToPage p s).toNat ∧ (roundUpToPage p s).toNat < s.toNat + p.toNat ∧
      ∀ m, p.toNat ∣ m → s.toNat ≤ m → (roundUpToPage p s).toNat ≤ m
  wraps : ∀ s : SizeT, s.toNat = 0 ∨ 2 ^ 64 - p.toNat < s.toNat → roundUpToPage p s = 0
  lengths : ∀ st : Sys, Reachable st → st.reg.pageSize = p →
    ∀ f ∈ st.frames, ∀ c ∈ f.pc.syscall, ∀ L ∈ c.length?, L = roundUpToPage p f.size
  registered : ∀ st : Sys, Reachable st → st.reg.pageSize = p →
    ∀ f ∈ st.frames, ∀ len fd rw rx, f.pc = .register len fd rw rx →
      len = roundUpToPage p f.size ∧ f.size.toNat ≤ len.toNat
  /-- The register step of call `t` adds `JitAllocation{rw, rx, alloc_size, fd}` with
  `alloc_size` the rounding of the call's request. -/
  records : ∀ st : Sys, Reachable st → st.reg.pageSize = p →
    ∀ t f, st.frames[t]? = some f → ∀ len fd rw rx, f.pc = .register len fd rw rx → ∀ r,
      (st.step (.allocStep t r)).reg = st.reg.register ⟨rw, rx, roundUpToPage p f.size, fd⟩
  aligned : ∀ st : Sys, Reachable st → st.reg.pageSize = p →
    ∀ a ∈ st.reg.records, p.toNat ∣ a.size.toNat ∧ 0 < a.size.toNat

/-- Where `g_page_size` is nonzero, it is the probed size. -/
theorem Sys.PageInv.probe_eq {s : Sys} (h : s.PageInv) {p : SizeT} (hp : p ≠ 0)
    (hps : s.reg.pageSize = p) : probePageSize s.os.pageSize = p :=
  (h.pageSize.resolve_left fun h0 => hp (hps ▸ h0)).symm.trans hps

/-- In a reachable state where `g_page_size` is `p ≠ 0`, every call's `alloc_size` is its
request rounded by `p`. -/
theorem len_eq_roundUpToPage {st : Sys} (hs : Reachable st) {p : SizeT} (hp : p ≠ 0)
    (hps : st.reg.pageSize = p) {f : AllocFrame} (hf : f ∈ st.frames) :
    ∀ L ∈ f.pc.len?, L = roundUpToPage p f.size :=
  have h := Sys.PageInv.reachable hs
  h.probe_eq hp hps ▸ (h.frames f hf).len

theorem page_rounding {p : SizeT} (hp : p.toNat.isPowerOfTwo) : PageRounding p := by
  have hp0 : p ≠ 0 := fun h0 => (Nat.pos_of_isPowerOfTwo hp).ne' (by rw [h0]; rfl)
  refine ⟨roundUpToPage_dvd hp, fun s => roundUpToPage_least hp, fun s => roundUpToPage_eq_zero hp,
    fun st hs hps f hf c hc L hL => len_eq_roundUpToPage hs hp0 hps hf L
      (f.pc.length_syscall c hc L hL),
    fun st hs hps f hf len fd rw rx hpc => ?registered,
    fun st hs hps t f ht len fd rw rx hpc r => ?records, fun st hs hps a ha => ?aligned⟩
  case registered =>
    have hlen := len_eq_roundUpToPage hs hp0 hps hf len (by rw [hpc]; rfl)
    obtain ⟨t, ht⟩ := List.getElem?_of_mem hf
    have hpos := ((Inv.reachable hs).valid_of_mem (Multiset.mem_of_le (frame_le_held ht)
      (Multiset.mem_coe.2 (show Res.map rw len ∈ f.pc.resources by
        simp [hpc, AllocPc.resources])))).2.1
    refine ⟨hlen, hlen ▸ le_roundUpToPage hp fun h0 => ?_⟩
    rw [hlen, h0] at hpos
    exact absurd hpos (by decide)
  case records =>
    rw [Sys.step_allocStep ht, ← len_eq_roundUpToPage hs hp0 hps (List.getElem?_mem ht) len
      (by rw [hpc]; rfl)]
    simp only [AllocFrame.step, hpc]
  case aligned =>
    have h := Sys.PageInv.reachable hs
    obtain ⟨n, hn⟩ := h.records a ha
    rw [h.probe_eq hp0 hps] at hn
    obtain ⟨k, hk⟩ := Registry.mem_records.1 ha
    exact ⟨hn ▸ roundUpToPage_dvd hp n, ((Inv.reachable hs).record_valid hk).size_pos⟩

theorem page_rounding_4096 : (4096 : SizeT).toNat.isPowerOfTwo ∧ PageRounding 4096 :=
  ⟨⟨12, rfl⟩, page_rounding ⟨12, rfl⟩⟩

end AndroidJit

import AmiberryAndroid.Jit.Preservation

/-!
# Shutdown and in-flight allocations

`android_jit_alloc` reads `g_initialized` without the lock and registers its allocation in a
later locked section, with its system calls in between. `android_jit_shutdown` takes the lock,
releases and clears both maps and clears `g_initialized`; it does not wait for, or mark, the
calls in flight. A call that has passed its check when the shutdown runs goes on to register
into the cleared maps, and the registry is then not empty while `g_initialized` is false
(`registers_after_shutdown`).

The header asks callers to call `android_jit_shutdown` once, after all JIT memory is freed.
**Theorem (`uninitialized_empty_of_orderly`).** In every state reachable by runs where each
shutdown happens while no call is *committed* (past its check of `g_initialized`, and not yet
on a failure path or returned), both maps are empty whenever `g_initialized` is false.

The invariant is `Sys.Quiescent`: while `g_initialized` is false, both maps are empty and no call
is committed. A call leaves the uncommitted points only through `round`, which it reaches
after seeing `g_initialized` set or after setting it itself.
-/

namespace AndroidJit

/-- The call has passed its check of `g_initialized` and may still register. -/
def AllocPc.Committed : AllocPc → Bool
  | round | memfd _ | ftruncate _ _ | mmapRw _ _ | mmapRx _ _ _ | register _ _ _ _ => true
  | checkInit | callInit | unmapRw _ _ _ | closeFd _ | done _ => false

/-- The caller's side of the header's contract: no call is committed. -/
def Sys.ShutdownSafe (s : Sys) : Prop := ∀ f ∈ s.frames, f.pc.Committed = false

instance (s : Sys) : Decidable s.ShutdownSafe :=
  inferInstanceAs (Decidable (∀ f ∈ s.frames, f.pc.Committed = false))

/-- The states reachable when every shutdown is made while no call is committed. -/
inductive OrderlyReachable : Sys → Prop
  | init (sc : SizeT) : OrderlyReachable (Sys.initial sc)
  | step {s : Sys} {e : Event} : OrderlyReachable s → s.Admits e →
      (e = .shutdown → s.ShutdownSafe) → OrderlyReachable (s.step e)

/-- Every event of the sequence is admitted, and every shutdown in it is made while no call is
committed. -/
def Sys.OrderlyRun : Sys → List Event → Prop
  | _, [] => True
  | s, e :: es => s.Admits e ∧ (e = .shutdown → s.ShutdownSafe) ∧ OrderlyRun (s.step e) es

instance : (s : Sys) → (es : List Event) → Decidable (Sys.OrderlyRun s es)
  | _, [] => isTrue trivial
  | s, e :: es =>
    haveI := instDecidableOrderlyRun (s.step e) es
    inferInstanceAs (Decidable (s.Admits e ∧ (e = .shutdown → s.ShutdownSafe) ∧ _))

theorem OrderlyReachable.run {s : Sys} (hs : OrderlyReachable s) :
    ∀ {es : List Event}, s.OrderlyRun es → OrderlyReachable (s.run es)
  | [], _ => hs
  | _ :: _, ⟨h, hsd, hr⟩ => (hs.step h hsd).run hr

/-- While `g_initialized` is false, nothing is registered and no call is committed. -/
def Sys.Quiescent (s : Sys) : Prop :=
  s.reg.initialized = false →
    s.reg.jitAllocationsByRw = .empty ∧ s.reg.jitAllocationsByRx = .empty ∧ s.ShutdownSafe

/-! ## One step of a call -/

namespace AllocFrame

variable {sc : SizeT} {g : Registry} {f : AllocFrame}

/-- From an uncommitted point, a call steps to another one, or to `round` with
`g_initialized` set. -/
theorem committed_step (hf : f.pc.Committed = false) (r : Reply) :
    (f.step sc g r).2.pc.Committed = false ∨ (f.step sc g r).1.initialized = true := by
  rcases f with ⟨size, rwOut, rxOut, pc⟩
  cases pc <;> simp only [AllocPc.Committed] at hf <;> simp only [step] <;> try split_ifs
  all_goals simp_all [AllocPc.Committed]

/-- From an uncommitted point, a call registers nothing. -/
theorem reg_step_of_not_committed (hf : f.pc.Committed = false) (r : Reply) :
    (f.step sc g r).1 = g ∨ (f.step sc g r).1 = androidJitInit sc g := by
  rcases f.step_reg_cases sc g r with h1 | h1 | ⟨len, fd, rw, rx, hpc, -⟩
  · exact .inl h1
  · exact .inr h1
  · simp [hpc, AllocPc.Committed] at hf

end AllocFrame

/-! ## Every orderly step keeps the invariant -/

namespace Sys.Quiescent

variable {s : Sys}

/-- A step that keeps the maps and the calls' points, and never clears `g_initialized`. -/
theorem of_reg (h : s.Quiescent) {g : Registry}
    (hrw : g.jitAllocationsByRw = s.reg.jitAllocationsByRw)
    (hrx : g.jitAllocationsByRx = s.reg.jitAllocationsByRx)
    (hinit : g.initialized = false → s.reg.initialized = false) : Quiescent { s with reg := g } :=
  fun h0 => by simpa [hrw, hrx] using h (hinit h0)

theorem allocStep (h : s.Quiescent) (t : Nat) (r : Reply) : (s.step (.allocStep t r)).Quiescent := by
  cases hf : s.frames[t]? with
  | none => rwa [Sys.step_allocStep_none hf]
  | some f =>
    rw [Sys.step_allocStep hf]
    intro h0
    -- the globals were uninitialized before, so no call was committed
    have hi : s.reg.initialized = false := by
      rcases f.step_reg_cases s.os.pageSize s.reg r with h1 | h1 | ⟨len, fd, rw, rx, -, h1⟩ <;>
        simp only [h1, Registry.register_initialized, androidJitInit_initialized] at h0
      all_goals first | exact h0 | cases h0
    obtain ⟨hrw, hrx, hsafe⟩ := h hi
    have hfc := hsafe f (List.getElem?_mem hf)
    have hreg : (f.step s.os.pageSize s.reg r).1 = s.reg := by
      rcases f.reg_step_of_not_committed hfc r with h1 | h1
      · exact h1
      · rw [h1, androidJitInit_initialized] at h0
        cases h0
    refine ⟨by rw [hreg, hrw], by rw [hreg, hrx], fun f' hf' => ?_⟩
    rcases List.mem_or_eq_of_mem_set hf' with hf' | rfl
    · exact hsafe f' hf'
    · exact (f.committed_step hfc r).resolve_right (by rw [hreg, hi]; decide)

theorem step (h : s.Quiescent) {e : Event} (hsd : e = .shutdown → s.ShutdownSafe) :
    (s.step e).Quiescent := by
  cases e with
  | init => exact h.of_reg (by simp) (by simp) (by simp)
  | shutdown => exact fun _ => ⟨rfl, rfl, hsd rfl⟩
  | free rw rx n =>
    intro h0
    simp only [Sys.step, androidJitFree_initialized] at h0
    obtain ⟨hrw, hrx, hsafe⟩ := h h0
    have hnone : (androidJitFree s.reg rw rx n).1 = s.reg := by
      rcases androidJitFree_fst s.reg rw rx n with h1 | ⟨a, h1⟩
      · exact h1
      · rw [androidJitFree] at h1 ⊢
        simp [hrw] at h1 ⊢
    simpa [Sys.step, hnone] using And.intro hrw (And.intro hrx hsafe)
  | rwToRx _ | rxToRw _ => exact h
  | pageSize => exact h.of_reg (by simp) (by simp) (by simp)
  | allocCall size rwOut rxOut =>
    intro h0
    obtain ⟨hrw, hrx, hsafe⟩ := h h0
    refine ⟨hrw, hrx, fun f hf => ?_⟩
    rcases List.mem_append.1 hf with hf | hf
    · exact hsafe f hf
    · rw [List.mem_singleton.1 hf]
      unfold AllocFrame.start
      split <;> rfl
  | allocStep t r => exact h.allocStep t r

theorem orderlyReachable {s : Sys} (hs : OrderlyReachable s) : s.Quiescent := by
  induction hs with
  | init sc => exact fun _ => ⟨rfl, rfl, nofun⟩
  | step _ _ hsd ih => exact ih.step hsd

end Sys.Quiescent

/-- Under the header's contract, an uninitialized registry is empty. -/
theorem uninitialized_empty_of_orderly {s : Sys} (hs : OrderlyReachable s)
    (h0 : s.reg.initialized = false) :
    s.reg.jitAllocationsByRw = .empty ∧ s.reg.jitAllocationsByRx = .empty :=
  ⟨(Sys.Quiescent.orderlyReachable hs h0).1, (Sys.Quiescent.orderlyReachable hs h0).2.1⟩

/-- One call allocates and returns; then the shutdown runs. -/
def allocThenShutdown : List Event :=
  [.allocCall 4096 (some 0) (some 0), .allocStep 0 .ignored, .allocStep 0 .ignored,
    .allocStep 0 .ignored, .allocStep 0 ⟨3, 0⟩, .allocStep 0 ⟨0, 0⟩, .allocStep 0 ⟨0, 0x10000⟩,
    .allocStep 0 ⟨0, 0x20000⟩, .allocStep 0 .ignored, .shutdown]

theorem uninitialized_empty_of_orderly_allocThenShutdown :
    OrderlyReachable ((Sys.initial 4096).run allocThenShutdown) ∧
    ((Sys.initial 4096).run allocThenShutdown).reg.initialized = false ∧
    ((Sys.initial 4096).run allocThenShutdown).reg.jitAllocationsByRw = .empty ∧
    ((Sys.initial 4096).run allocThenShutdown).reg.jitAllocationsByRx = .empty :=
  have hs := (OrderlyReachable.init 4096).run (by decide)
  have h0 : ((Sys.initial 4096).run allocThenShutdown).reg.initialized = false := by decide
  ⟨hs, h0, uninitialized_empty_of_orderly hs h0⟩

/-! ## A shutdown inside an allocation -/

/-- One call runs to just before its registration; a shutdown runs; the call registers. -/
def shutdownDuringAlloc : List Event :=
  [.allocCall 4096 (some 0) (some 0), .allocStep 0 .ignored, .allocStep 0 .ignored,
    .allocStep 0 .ignored, .allocStep 0 ⟨3, 0⟩, .allocStep 0 ⟨0, 0⟩, .allocStep 0 ⟨0, 0x10000⟩,
    .allocStep 0 ⟨0, 0x20000⟩, .shutdown, .allocStep 0 .ignored]

/-- Every step of the run without the shutdown obeys the contract; this one is taken after the
call committed, and leaves a record behind in an uninitialized registry. -/
theorem registers_after_shutdown :
    Reachable ((Sys.initial 4096).run shutdownDuringAlloc) ∧
    ((Sys.initial 4096).run shutdownDuringAlloc).reg.initialized = false ∧
    ((Sys.initial 4096).run shutdownDuringAlloc).reg.records = [⟨0x10000, 0x20000, 4096, 3⟩] :=
  ⟨(Reachable.init 4096).run (by decide), by decide, by decide⟩

end AndroidJit

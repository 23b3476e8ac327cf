import AmiberryAndroid.Jit.Alloc

/-!
# The allocator under any interleaving

A `Sys` is the globals, the kernel, and every `android_jit_alloc` call made so far (finished
calls stay, at `done`). An `Event` is one atomic step of one thread: a whole locked function,
the start of an `android_jit_alloc` call, or the next step of call number `t`, with the
kernel's reply. `Sys.step` is executable; `Sys.Admits` is the kernel's contract for the reply,
and is the only constraint on a run. `Reachable` closes the initial state under admitted
steps, so a property of every reachable state holds for every schedule of any number of
threads and every sequence of kernel replies.

`android_jit_rw_to_rx` and `android_jit_rx_to_rw` change nothing; they are events all the
same, so that no interleaving is left out. `android_jit_flush_cache` touches only the
hardware's caches, which the model does not have.
-/

namespace AndroidJit

/-- The allocator, the kernel, and the `android_jit_alloc` calls made so far. -/
structure Sys where
  reg : Registry
  os : OsState
  frames : List AllocFrame
  deriving DecidableEq, Repr

/-- One atomic step of one thread. -/
inductive Event
  | init
  | shutdown
  | free (rwPtr rxPtr : Ptr) (size : SizeT)
  | rwToRx (rwPtr : Ptr)
  | rxToRw (rxPtr : Ptr)
  | pageSize
  /-- A thread enters `android_jit_alloc(size, rw_ptr, rx_ptr)`. -/
  | allocCall (size : SizeT) (rwOut rxOut : Option Ptr)
  /-- Call number `t` takes its next step; `r` is the kernel's reply to its system call. -/
  | allocStep (t : Nat) (r : Reply)
  deriving DecidableEq, Repr

/-- The reply passed to calls whose result the code ignores (`munmap`, `close`). -/
def Reply.ignored : Reply := ⟨-1, mapFailed⟩

namespace Sys

/-- Program start, on a kernel whose `sysconf(_SC_PAGESIZE)` is `sc`. -/
def initial (sc : SizeT) : Sys := ⟨.initial, .initial sc, []⟩

/-- The effect of one event. -/
def step (s : Sys) : Event → Sys
  | .init => { s with reg := androidJitInit s.os.pageSize s.reg }
  | .shutdown =>
    { s with reg := (androidJitShutdown s.reg).1,
             os := s.os.performAll (androidJitShutdown s.reg).2 .ignored }
  | .free rw rx n =>
    { s with reg := (androidJitFree s.reg rw rx n).1,
             os := s.os.performAll (androidJitFree s.reg rw rx n).2 .ignored }
  | .rwToRx _ | .rxToRw _ => s
  | .pageSize => { s with reg := (androidJitPageSize s.os.pageSize s.reg).1 }
  | .allocCall size rwOut rxOut => { s with frames := s.frames ++ [.start size rwOut rxOut] }
  | .allocStep t r =>
    match s.frames[t]? with
    | none => s
    | some f =>
      { reg := (f.step s.os.pageSize s.reg r).1
        os := f.pc.perform s.os r
        frames := s.frames.set t (f.step s.os.pageSize s.reg r).2 }

theorem step_allocStep {s : Sys} {t : Nat} {f : AllocFrame} (hf : s.frames[t]? = some f)
    (r : Reply) : s.step (.allocStep t r) = ⟨(f.step s.os.pageSize s.reg r).1,
      f.pc.perform s.os r, s.frames.set t (f.step s.os.pageSize s.reg r).2⟩ := by
  simp [step, hf]

theorem step_allocStep_none {s : Sys} {t : Nat} (hf : s.frames[t]? = none) (r : Reply) :
    s.step (.allocStep t r) = s := by
  simp [step, hf]

/-- No step changes what `sysconf` returns. -/
@[simp] theorem os_pageSize_step (s : Sys) (e : Event) : (s.step e).os.pageSize = s.os.pageSize := by
  cases e with
  | allocStep t r =>
    cases hf : s.frames[t]? with
    | none => rw [step_allocStep_none hf]
    | some f => simp [step_allocStep hf]
  | _ => simp [step]

/-- The kernel's contract on the reply of a step. -/
def Admits (s : Sys) : Event → Prop
  | .allocStep t r => ∀ f ∈ s.frames[t]?, ∀ c ∈ f.pc.syscall, s.os.Admits c r
  | _ => True

instance (s : Sys) : (e : Event) → Decidable (s.Admits e)
  | .allocStep t r => inferInstanceAs (Decidable (∀ f ∈ s.frames[t]?, ∀ c ∈ f.pc.syscall, s.os.Admits c r))
  | .init | .shutdown | .free _ _ _ | .rwToRx _ | .rxToRw _ | .pageSize | .allocCall _ _ _ =>
    isTrue trivial

/-- A sequence of events, in order. -/
def run (s : Sys) (es : List Event) : Sys := es.foldl step s

/-- Every event of the sequence is admitted in the state it is applied to. -/
def AdmitsRun : Sys → List Event → Prop
  | _, [] => True
  | s, e :: es => s.Admits e ∧ AdmitsRun (s.step e) es

instance : (s : Sys) → (es : List Event) → Decidable (AdmitsRun s es)
  | _, [] => isTrue trivial
  | s, e :: es =>
    haveI := instDecidableAdmitsRun (s.step e) es
    inferInstanceAs (Decidable (s.Admits e ∧ AdmitsRun (s.step e) es))

end Sys

/-- The states some schedule and some admitted kernel replies lead to. -/
inductive Reachable : Sys → Prop
  | init (sc : SizeT) : Reachable (Sys.initial sc)
  | step {s : Sys} {e : Event} : Reachable s → s.Admits e → Reachable (s.step e)

theorem Reachable.run {s : Sys} (hs : Reachable s) :
    ∀ {es : List Event}, s.AdmitsRun es → Reachable (s.run es)
  | [], _ => hs
  | _ :: _, ⟨h, hr⟩ => (hs.step h).run hr

/-- A property of all reachable states, from the initial state and one step. -/
theorem Reachable.induction {P : Sys → Prop} (hinit : ∀ sc, P (Sys.initial sc))
    (hstep : ∀ s e, Reachable s → P s → s.Admits e → P (s.step e)) {s : Sys}
    (hs : Reachable s) : P s := by
  induction hs with
  | init sc => exact hinit sc
  | step hs he ih => exact hstep _ _ hs ih he

end AndroidJit

import AmiberryAndroid.Jit.Registry

/-!
# `android_jit_alloc`, one step at a time

`android_jit_alloc` is the only function of the allocator that is not one critical section.
It reads `g_initialized` without the lock, calls `android_jit_init` (a locked section of its
own), reads `g_page_size`, makes up to four system calls without the lock, and registers
its allocation in a last locked section. Other threads run between any two of these steps.

An `AllocFrame` is one call: its arguments, its two output slots, and `AllocPc`, the point it
has reached together with the locals computed so far. `AllocFrame.step` runs one step; a step
that makes a system call (`AllocPc.syscall`) reads the kernel's reply.

The failure paths are the code's: a failed `ftruncate` or read-write `mmap` closes the
descriptor (`closeFd`), a failed read-execute `mmap` first unmaps the read-write view
(`unmapRw`). The writes to the output slots after the lock is released are thread-local, and
happen in the same step as the registration.
-/

namespace AndroidJit

/-- Where an `android_jit_alloc` call is, with the locals it has computed. -/
inductive AllocPc
  /-- `if (!g_initialized)` -/
  | checkInit
  /-- `android_jit_init();` -/
  | callInit
  /-- `size_t alloc_size = round_up_to_page(size);` -/
  | round
  /-- `int fd = memfd_create_wrapper("amiberry_jit", MFD_CLOEXEC);` -/
  | memfd (len : SizeT)
  /-- `if (ftruncate(fd, alloc_size) < 0)` -/
  | ftruncate (len : SizeT) (fd : Int)
  /-- `void* rw = mmap(nullptr, alloc_size, PROT_READ | PROT_WRITE, MAP_SHARED, fd, 0);` -/
  | mmapRw (len : SizeT) (fd : Int)
  /-- `void* rx = mmap(nullptr, alloc_size, PROT_READ | PROT_EXEC, MAP_SHARED, fd, 0);` -/
  | mmapRx (len : SizeT) (fd : Int) (rw : Ptr)
  /-- The locked registration, then `*rw_ptr = rw; *rx_ptr = rx; return 0;`. -/
  | register (len : SizeT) (fd : Int) (rw rx : Ptr)
  /-- `munmap(rw, alloc_size);` after the read-execute mapping failed. -/
  | unmapRw (len : SizeT) (fd : Int) (rw : Ptr)
  /-- `close(fd); return -1;` -/
  | closeFd (fd : Int)
  /-- Returned `ret`. -/
  | done (ret : Int)
  deriving DecidableEq, Repr

/-- One call of `android_jit_alloc(size, rw_ptr, rx_ptr)`. An output slot is `none` when the
pointer to it is null, and otherwise holds what the caller will read there. -/
structure AllocFrame where
  size : SizeT
  rwOut : Option Ptr
  rxOut : Option Ptr
  pc : AllocPc
  deriving DecidableEq, Repr

namespace AllocPc

/-- The system call the next step makes. -/
def syscall : AllocPc → Option Syscall
  | memfd _ => some .memfdCreate
  | ftruncate len fd => some (.ftruncate fd len)
  | mmapRw len fd => some (.mmap len .readWrite fd)
  | mmapRx len fd _ => some (.mmap len .readExec fd)
  | unmapRw len _ rw => some (.munmap rw len)
  | closeFd fd => some (.close fd)
  | _ => none

/-- The kernel after the step's system call. -/
def perform (pc : AllocPc) (os : OsState) (r : Reply) : OsState :=
  match pc.syscall with
  | some c => os.perform c r
  | none => os

/-- The `alloc_size` the call has computed, once it has. -/
def len? : AllocPc → Option SizeT
  | memfd len | ftruncate len _ | mmapRw len _ | mmapRx len _ _ | register len _ _ _
  | unmapRw len _ _ => some len
  | _ => none

@[simp] theorem pageSize_perform (pc : AllocPc) (os : OsState) (r : Reply) :
    (pc.perform os r).pageSize = os.pageSize := by
  unfold perform; split <;> simp

/-- Every length a call passes to the kernel is its `alloc_size`. -/
theorem length_syscall : ∀ (pc : AllocPc), ∀ c ∈ pc.syscall, ∀ L ∈ c.length?, L ∈ pc.len? := by
  intro pc c hc L hL
  cases pc <;> cases hc <;> cases hL <;> rfl

end AllocPc

namespace AllocFrame

/-- Entry: `if (!rw_ptr || !rx_ptr) return -1;`, then both slots are set to null. -/
def start (size : SizeT) (rwOut rxOut : Option Ptr) : AllocFrame :=
  match rwOut, rxOut with
  | some _, some _ => ⟨size, some 0, some 0, .checkInit⟩
  | _, _ => ⟨size, rwOut, rxOut, .done (-1)⟩

/-- One step, given `sysconf(_SC_PAGESIZE)`, the globals, and the kernel's reply to the
step's system call. -/
def step (sysconf : SizeT) (g : Registry) (f : AllocFrame) (r : Reply) : Registry × AllocFrame :=
  match f.pc with
  | .checkInit => (g, { f with pc := if g.initialized then .round else .callInit })
  | .callInit => (androidJitInit sysconf g, { f with pc := .round })
  | .round => (g, { f with pc := .memfd (roundUpToPage g.pageSize f.size) })
  | .memfd len => (g, { f with pc := if r.ret < 0 then .done (-1) else .ftruncate len r.ret })
  | .ftruncate len fd => (g, { f with pc := if r.ret < 0 then .closeFd fd else .mmapRw len fd })
  | .mmapRw len fd =>
    (g, { f with pc := if r.addr = mapFailed then .closeFd fd else .mmapRx len fd r.addr })
  | .mmapRx len fd rw =>
    (g, { f with pc := if r.addr = mapFailed then .unmapRw len fd rw else .register len fd rw r.addr })
  | .register len fd rw rx =>
    (g.register ⟨rw, rx, len, fd⟩, { f with rwOut := some rw, rxOut := some rx, pc := .done 0 })
  | .unmapRw _ fd _ => (g, { f with pc := .closeFd fd })
  | .closeFd _ => (g, { f with pc := .done (-1) })
  | .done _ => (g, f)

@[simp] theorem size_step (sc : SizeT) (g : Registry) (f : AllocFrame) (r : Reply) :
    (f.step sc g r).2.size = f.size := by
  unfold step; split <;> rfl

/-- What a step does to the globals: nothing, `android_jit_init`, or the registration. -/
theorem step_reg_cases (sc : SizeT) (g : Registry) (f : AllocFrame) (r : Reply) :
    (f.step sc g r).1 = g ∨ (f.step sc g r).1 = androidJitInit sc g ∨
      ∃ len fd rw rx, f.pc = .register len fd rw rx ∧ (f.step sc g r).1 = g.register ⟨rw, rx, len, fd⟩ := by
  rcases f with ⟨size, rwOut, rxOut, pc⟩
  cases pc with
  | register len fd rw rx => exact .inr (.inr ⟨len, fd, rw, rx, rfl, rfl⟩)
  | _ => simp [step]

/-- A step computes `alloc_size` only at `round`, from `g_page_size`; otherwise it keeps the one
it had. -/
theorem len_step (sc : SizeT) (g : Registry) (f : AllocFrame) (r : Reply) :
    ∀ L ∈ (f.step sc g r).2.pc.len?,
      L ∈ f.pc.len? ∨ f.pc = .round ∧ L = roundUpToPage g.pageSize f.size := by
  rcases f with ⟨size, rwOut, rxOut, pc⟩
  cases pc <;> simp only [step] <;> try split_ifs
  all_goals simp [AllocPc.len?]

/-- A step reaches `round` only through a state where `g_initialized` is set. -/
theorem initialized_of_step_round {sc : SizeT} {g : Registry} {f : AllocFrame} {r : Reply}
    (h : (f.step sc g r).2.pc = .round) : (f.step sc g r).1.initialized = true := by
  rcases f with ⟨size, rwOut, rxOut, pc⟩
  cases pc <;> simp only [step] at h ⊢ <;> try split_ifs at h
  all_goals first | (cases h; done) | assumption | simp

end AllocFrame

end AndroidJit

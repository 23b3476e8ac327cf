import AmiberryAndroid.Jit.StdMap
import AmiberryAndroid.Jit.Os

/-!
# The registry and its locked operations

`android_jit.cpp` keeps four globals: the two maps, `g_page_size` and `g_initialized`. Every
function below runs inside one `lock_guard` section (or, for `android_jit_page_size`, touches
one global without the lock), so each is one atomic step on `Registry`. The functions that
release kernel objects return the calls they make, in order; the system applies them to the
kernel in `AndroidJit.Sys.step`.

`g_jit_allocations_by_rx` stores `JitAllocation*` pointers into the nodes of
`g_jit_allocations_by_rw`. A node of a `std::map` does not move while it lives, and its key
names it, so the pointer is written as the key of the node it points to. Following it is a
`find` on the first map; the registry invariant shows that it never dangles.

The two scans of the translation functions differ only in which view is the source, so they
are one definition, `scanViews`, with the two views as parameters.
-/

namespace AndroidJit

/-- `struct JitAllocation`. -/
structure JitAllocation where
  rwPtr : Ptr
  rxPtr : Ptr
  size : SizeT
  fd : Int
  deriving DecidableEq, Repr

/-- The globals of `android_jit.cpp`, except the mutex. -/
structure Registry where
  /-- `g_jit_allocations_by_rw`. -/
  jitAllocationsByRw : StdMap JitAllocation
  /-- `g_jit_allocations_by_rx`, each pointer written as the key of its node. -/
  jitAllocationsByRx : StdMap Ptr
  /-- `g_page_size`. -/
  pageSize : SizeT
  /-- `g_initialized`. -/
  initialized : Bool
  deriving DecidableEq, Repr

namespace Registry

/-- The globals at program start. -/
def initial : Registry := ⟨.empty, .empty, 0, false⟩

/-- The open allocations, in key order. -/
def records (g : Registry) : List JitAllocation := g.jitAllocationsByRw.entries.map Prod.snd

/-- The locked section of `android_jit_alloc` that records a new allocation. -/
def register (g : Registry) (a : JitAllocation) : Registry :=
  { g with
    jitAllocationsByRw := g.jitAllocationsByRw.assign a.rwPtr a
    jitAllocationsByRx := g.jitAllocationsByRx.assign a.rxPtr a.rwPtr }

theorem mem_records {g : Registry} {a : JitAllocation} :
    a ∈ g.records ↔ ∃ k, (k, a) ∈ g.jitAllocationsByRw.entries := by
  simp [records]

@[simp] theorem register_pageSize (g : Registry) (a : JitAllocation) :
    (g.register a).pageSize = g.pageSize := rfl

@[simp] theorem register_initialized (g : Registry) (a : JitAllocation) :
    (g.register a).initialized = g.initialized := rfl

theorem mem_records_register {g : Registry} {a b : JitAllocation} (h : b ∈ (g.register a).records) :
    b = a ∨ b ∈ g.records := by
  obtain ⟨e, he, rfl⟩ := List.mem_map.1 h
  rcases StdMap.mem_assign he with rfl | he
  · exact .inl rfl
  · exact .inr (List.mem_map_of_mem _ he)

end Registry

/-- `g_page_size = sysconf(_SC_PAGESIZE)`, falling back to 4096 for 0. -/
def probePageSize (sysconf : SizeT) : SizeT := if sysconf = 0 then 4096 else sysconf

/-- `android_jit_init`; it always returns 0. -/
def androidJitInit (sysconf : SizeT) (g : Registry) : Registry :=
  if g.initialized then g else { g with pageSize := probePageSize sysconf, initialized := true }

/-- The releases of one allocation, each behind its own check, as the loop of
`android_jit_shutdown` and `android_jit_free` both make them. -/
def releaseCalls (a : JitAllocation) : List Syscall :=
  (if a.rwPtr ≠ 0 then [.munmap a.rwPtr a.size] else []) ++
    (if a.rxPtr ≠ 0 then [.munmap a.rxPtr a.size] else []) ++
    (if 0 ≤ a.fd then [.close a.fd] else [])

/-- `android_jit_shutdown`: the new globals, and the calls it makes. -/
def androidJitShutdown (g : Registry) : Registry × List Syscall :=
  ({ g with jitAllocationsByRw := .empty, jitAllocationsByRx := .empty, initialized := false },
    g.jitAllocationsByRw.entries.flatMap fun e => releaseCalls e.2)

/-- `android_jit_free`. The size argument is not read, and a mismatched `rx_ptr` is only
logged: the record found by `rw_ptr` decides what is released. -/
def androidJitFree (g : Registry) (rwPtr rxPtr : Ptr) (_size : SizeT) : Registry × List Syscall :=
  if rwPtr = 0 ∧ rxPtr = 0 then (g, []) else
    match g.jitAllocationsByRw.find rwPtr with
    | none => (g, [])
    | some a =>
      ({ g with
          jitAllocationsByRx := g.jitAllocationsByRx.erase a.rxPtr
          jitAllocationsByRw := g.jitAllocationsByRw.erase rwPtr }, releaseCalls a)

/-- The containment test of the scans, `addr >= base && addr < base + alloc.size` in
`uintptr_t`. -/
def inView (base : Ptr) (size : SizeT) (addr : Ptr) : Bool := base ≤ addr && addr < base + size

/-- The linear scan of both translation functions: the first record whose `src` view contains
`addr` gives the same offset in its `dst` view. -/
def scanViews (g : Registry) (src dst : JitAllocation → Ptr) (addr : Ptr) : Ptr :=
  match g.jitAllocationsByRw.entries.find? (fun e => inView (src e.2) e.2.size addr) with
  | some e => dst e.2 + (addr - src e.2)
  | none => 0

/-- `android_jit_rw_to_rx`. -/
def androidJitRwToRx (g : Registry) (rwPtr : Ptr) : Ptr :=
  if rwPtr = 0 then 0 else
    match g.jitAllocationsByRw.find rwPtr with
    | some a => a.rxPtr
    | none => scanViews g JitAllocation.rwPtr JitAllocation.rxPtr rwPtr

/-- `android_jit_rx_to_rw`. `it->second->rw_ptr` follows the stored pointer into the first
map; a dangling pointer would be undefined behaviour, and reads as null here. -/
def androidJitRxToRw (g : Registry) (rxPtr : Ptr) : Ptr :=
  if rxPtr = 0 then 0 else
    match g.jitAllocationsByRx.find rxPtr with
    | some k => ((g.jitAllocationsByRw.find k).map JitAllocation.rwPtr).getD 0
    | none => scanViews g JitAllocation.rxPtr JitAllocation.rwPtr rxPtr

/-- `android_jit_page_size`: probes the page size on first use, without the lock. -/
def androidJitPageSize (sysconf : SizeT) (g : Registry) : Registry × SizeT :=
  if g.pageSize = 0 then ({ g with pageSize := probePageSize sysconf }, probePageSize sysconf)
  else (g, g.pageSize)

/-! ## Frame lemmas -/

@[simp] theorem androidJitInit_jitAllocationsByRw (sc : SizeT) (g : Registry) :
    (androidJitInit sc g).jitAllocationsByRw = g.jitAllocationsByRw := by
  unfold androidJitInit; split_ifs <;> rfl

@[simp] theorem androidJitInit_jitAllocationsByRx (sc : SizeT) (g : Registry) :
    (androidJitInit sc g).jitAllocationsByRx = g.jitAllocationsByRx := by
  unfold androidJitInit; split_ifs <;> rfl

@[simp] theorem androidJitInit_initialized (sc : SizeT) (g : Registry) :
    (androidJitInit sc g).initialized = true := by
  unfold androidJitInit; split_ifs with h <;> simp [h]

@[simp] theorem androidJitPageSize_jitAllocationsByRw (sc : SizeT) (g : Registry) :
    (androidJitPageSize sc g).1.jitAllocationsByRw = g.jitAllocationsByRw := by
  unfold androidJitPageSize; split_ifs <;> rfl

@[simp] theorem androidJitPageSize_jitAllocationsByRx (sc : SizeT) (g : Registry) :
    (androidJitPageSize sc g).1.jitAllocationsByRx = g.jitAllocationsByRx := by
  unfold androidJitPageSize; split_ifs <;> rfl

@[simp] theorem androidJitPageSize_initialized (sc : SizeT) (g : Registry) :
    (androidJitPageSize sc g).1.initialized = g.initialized := by
  unfold androidJitPageSize; split_ifs <;> rfl

theorem probePageSize_ne_zero (sc : SizeT) : probePageSize sc ≠ 0 := by
  unfold probePageSize
  split_ifs with h
  · decide
  · exact h

/-- Once `g_initialized` implies the probed page size, `android_jit_init` leaves the probed
page size in `g_page_size`. -/
theorem androidJitInit_pageSize {sc : SizeT} {g : Registry}
    (h : g.initialized = true → g.pageSize = probePageSize sc) :
    (androidJitInit sc g).pageSize = probePageSize sc := by
  unfold androidJitInit
  split_ifs with hi
  · exact h hi
  · rfl

/-- `android_jit_free` changes nothing, or erases one record and its index entry. -/
theorem androidJitFree_fst (g : Registry) (rw rx : Ptr) (n : SizeT) :
    (androidJitFree g rw rx n).1 = g ∨ ∃ a : JitAllocation, (androidJitFree g rw rx n).1 =
      { g with jitAllocationsByRx := g.jitAllocationsByRx.erase a.rxPtr,
               jitAllocationsByRw := g.jitAllocationsByRw.erase rw } := by
  unfold androidJitFree
  split_ifs
  · exact .inl rfl
  · cases g.jitAllocationsByRw.find rw
    · exact .inl rfl
    · exact .inr ⟨_, rfl⟩

@[simp] theorem androidJitFree_pageSize (g : Registry) (rw rx : Ptr) (n : SizeT) :
    (androidJitFree g rw rx n).1.pageSize = g.pageSize := by
  rcases androidJitFree_fst g rw rx n with h | ⟨a, h⟩ <;> rw [h]

@[simp] theorem androidJitFree_initialized (g : Registry) (rw rx : Ptr) (n : SizeT) :
    (androidJitFree g rw rx n).1.initialized = g.initialized := by
  rcases androidJitFree_fst g rw rx n with h | ⟨a, h⟩ <;> rw [h]

theorem mem_records_androidJitFree {g : Registry} {rw rx : Ptr} {n : SizeT} {b : JitAllocation}
    (h : b ∈ (androidJitFree g rw rx n).1.records) : b ∈ g.records := by
  rcases androidJitFree_fst g rw rx n with h' | ⟨a, h'⟩ <;> rw [h'] at h
  · exact h
  · obtain ⟨e, he, rfl⟩ := List.mem_map.1 h
    exact List.mem_map_of_mem _ (StdMap.mem_erase.1 he).1

end AndroidJit

import AmiberryAndroid.Jit.Word
import Mathlib.Data.List.Perm.Basic
import Mathlib.Data.List.Nodup

/-!
# `std::map` keyed by pointers

Both registry maps are `std::map`s keyed by `void*`. A map is its list of entries in
increasing key order; `find`, `operator[]` assignment and `erase` act on that list as the
container does on its tree. Iteration (`for (auto& pair : m)`) is the list itself.

Every lemma that the registry proofs need holds under one side condition, that the keys are
distinct (`NodupKeys`). The registry keeps it, and with it a map is determined up to
permutation by its set of entries: `assign_perm` inserts a fresh key, `erase_perm` takes a
present one out.
-/

namespace AndroidJit

/-- A `std::map<void*, α>`: its entries, in increasing key order. -/
structure StdMap (α : Type) where
  entries : List (Ptr × α)
  deriving DecidableEq, Repr

namespace StdMap

variable {α : Type}

/-- The empty map, and the result of `clear()`. -/
def empty : StdMap α := ⟨[]⟩

/-- The keys, in iteration order. -/
def keys (m : StdMap α) : List Ptr := m.entries.map Prod.fst

/-- `m.find(k)`: the value at `k`, or `m.end()`. -/
def find (m : StdMap α) (k : Ptr) : Option α := (m.entries.find? (·.1 = k)).map Prod.snd

/-- Insertion of `(k, v)` at its place in key order, overwriting an entry at `k`. -/
def insertEntry (k : Ptr) (v : α) : List (Ptr × α) → List (Ptr × α)
  | [] => [(k, v)]
  | e :: es => if k < e.1 then (k, v) :: e :: es else if k = e.1 then (k, v) :: es
      else e :: insertEntry k v es

/-- `m[k] = v`. -/
def assign (m : StdMap α) (k : Ptr) (v : α) : StdMap α := ⟨insertEntry k v m.entries⟩

/-- `m.erase(k)`. -/
def erase (m : StdMap α) (k : Ptr) : StdMap α := ⟨m.entries.filter (·.1 ≠ k)⟩

/-- The keys are distinct, as in every `std::map`. -/
def NodupKeys (m : StdMap α) : Prop := m.keys.Nodup

@[simp] theorem entries_empty : (empty : StdMap α).entries = [] := rfl

@[simp] theorem find_empty (k : Ptr) : (empty : StdMap α).find k = none := rfl

theorem mem_keys {m : StdMap α} {k : Ptr} : k ∈ m.keys ↔ ∃ v, (k, v) ∈ m.entries := by
  simp [keys]

theorem find_eq_none_iff {m : StdMap α} {k : Ptr} : m.find k = none ↔ k ∉ m.keys := by
  simp only [find, Option.map_eq_none', List.find?_eq_none, decide_eq_true_eq, mem_keys]
  exact ⟨fun h ⟨v, hv⟩ => h _ hv rfl, fun h e he hek => h ⟨e.2, hek ▸ he⟩⟩

theorem find_eq_some_iff {m : StdMap α} (hm : m.NodupKeys) {k : Ptr} {v : α} :
    m.find k = some v ↔ (k, v) ∈ m.entries := by
  constructor
  · intro h
    obtain ⟨e, he, rfl⟩ := Option.map_eq_some'.1 h
    have := List.find?_some he
    simp only [decide_eq_true_eq] at this
    exact this ▸ List.mem_of_find?_eq_some he
  · intro h
    cases hf : m.find k with
    | none => exact absurd (mem_keys.2 ⟨v, h⟩) (find_eq_none_iff.1 hf)
    | some w =>
      obtain ⟨e, he, rfl⟩ := Option.map_eq_some'.1 hf
      have hek : e.1 = k := by simpa using List.find?_some he
      have := List.inj_on_of_nodup_map hm (List.mem_of_find?_eq_some he) h hek
      rw [this]

theorem mem_erase {m : StdMap α} {k : Ptr} {e : Ptr × α} :
    e ∈ (m.erase k).entries ↔ e ∈ m.entries ∧ e.1 ≠ k := by
  simp [erase]

theorem NodupKeys.erase {m : StdMap α} (hm : m.NodupKeys) (k : Ptr) : (m.erase k).NodupKeys :=
  (hm.sublist (List.Sublist.map _ (List.filter_sublist _)))

theorem keys_insertEntry_perm {k : Ptr} {v : α} :
    ∀ {es : List (Ptr × α)}, k ∉ es.map Prod.fst → (insertEntry k v es).Perm ((k, v) :: es)
  | [], _ => List.Perm.refl _
  | e :: es, hk => by
    have hne : k ≠ e.1 := fun h => hk (h ▸ List.mem_cons_self _ _)
    simp only [insertEntry, if_neg hne]
    split
    · exact List.Perm.refl _
    · exact ((keys_insertEntry_perm fun h => hk (List.mem_cons_of_mem _ h)).cons e).trans
        (List.Perm.swap _ _ _)

/-- Assigning at a fresh key inserts one entry. -/
theorem assign_perm {m : StdMap α} {k : Ptr} (hk : k ∉ m.keys) (v : α) :
    (m.assign k v).entries.Perm ((k, v) :: m.entries) :=
  keys_insertEntry_perm hk

/-- An entry after an assignment is the assigned one or was there before. -/
theorem mem_insertEntry {k : Ptr} {v : α} {e : Ptr × α} :
    ∀ {es : List (Ptr × α)}, e ∈ insertEntry k v es → e = (k, v) ∨ e ∈ es
  | [], h => by simpa [insertEntry] using h
  | e' :: es, h => by
    unfold insertEntry at h
    split_ifs at h <;> simp only [List.mem_cons] at h ⊢
    · exact h
    · tauto
    · exact h.elim (fun h => .inr (.inl h)) fun h => (mem_insertEntry h).imp_right .inr

theorem mem_assign {m : StdMap α} {k : Ptr} {v : α} {e : Ptr × α} (h : e ∈ (m.assign k v).entries) :
    e = (k, v) ∨ e ∈ m.entries :=
  mem_insertEntry h

theorem NodupKeys.assign {m : StdMap α} (hm : m.NodupKeys) {k : Ptr} (hk : k ∉ m.keys) (v : α) :
    (m.assign k v).NodupKeys := by
  have := (assign_perm hk v).map Prod.fst
  exact this.nodup_iff.2 (List.nodup_cons.2 ⟨hk, hm⟩)

/-- Erasing a present key takes out exactly its entry. -/
theorem erase_perm {m : StdMap α} (hm : m.NodupKeys) {k : Ptr} {v : α} (h : (k, v) ∈ m.entries) :
    m.entries.Perm ((k, v) :: (m.erase k).entries) := by
  have hnd : m.entries.Nodup := hm.of_map _
  refine (List.perm_ext_iff_of_nodup hnd
    (List.nodup_cons.2 ⟨fun h' => (mem_erase.1 h').2 rfl, hnd.filter _⟩)).2 fun e => ?_
  rw [List.mem_cons, mem_erase]
  by_cases he : e.1 = k
  · exact ⟨fun h' => .inl (List.inj_on_of_nodup_map hm h' h he), by rintro (rfl | ⟨h', -⟩) <;> assumption⟩
  · exact ⟨fun h' => .inr ⟨h', he⟩, by rintro (rfl | ⟨h', -⟩) <;> [exact absurd rfl he; exact h']⟩

end StdMap

end AndroidJit

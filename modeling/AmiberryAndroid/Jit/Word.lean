import Mathlib.Data.Nat.Defs
import Mathlib.Algebra.Group.Nat.Basic

/-!
# Machine words and `round_up_to_page`

`void*`, `uintptr_t` and `size_t` are 64 bits wide on arm64-v8a, the only ABI the port
builds. They are `BitVec 64` here, so that the sum `size + g_page_size - 1` wraps and the
mask `~(g_page_size - 1)` clears bits exactly as the compiled code does.

**Rounding (`roundUpToPage_dvd`, `roundUpToPage_least`, `roundUpToPage_eq_zero`).** Let `p`
be a power of two. For every `s`, `round_up_to_page(s)` is a multiple of `p`; for
`1 ≤ s ≤ 2^64 - p` it is the least multiple of `p` that is at least `s`; for `s = 0` and for
`s > 2^64 - p` it is `0`.

The mask clears the low bits, so the result is `y - y % p` for the wrapped sum `y`
(`toNat_and_not_pred`, after `and_not_add_and`). Everything after that is arithmetic on `y`,
which equals `s + p - 1` exactly when the sum does not wrap.
-/

namespace AndroidJit

/-- `void*` and `uintptr_t`. -/
abbrev Ptr := BitVec 64

/-- `size_t`. -/
abbrev SizeT := BitVec 64

/-- `MAP_FAILED`, that is `(void*) -1`. -/
def mapFailed : Ptr := BitVec.allOnes 64

/-- `round_up_to_page`, reading `g_page_size` from its first argument. -/
def roundUpToPage (pageSize size : SizeT) : SizeT :=
  (size + pageSize - 1) &&& ~~~(pageSize - 1)

/-! ## Clearing the low bits -/

/-- Clearing and keeping the bits of a mask split a word into two parts that add up to it. -/
theorem and_not_add_and (x m : BitVec 64) : (x &&& ~~~m).toNat + (x &&& m).toNat = x.toNat := by
  have hdisj : (x &&& ~~~m) &&& (x &&& m) = 0#64 := by
    ext i
    simp only [BitVec.getLsbD_and, BitVec.getLsbD_not, BitVec.getLsbD_zero]
    cases x.getLsbD i <;> cases m.getLsbD i <;> simp
  have hjoin : (x &&& ~~~m) ||| (x &&& m) = x := by
    ext i
    simp only [BitVec.getLsbD_or, BitVec.getLsbD_and, BitVec.getLsbD_not]
    cases x.getLsbD i <;> cases m.getLsbD i <;> simp_all
  rw [← BitVec.toNat_add_of_and_eq_zero hdisj, BitVec.add_eq_or_of_and_eq_zero _ _ hdisj, hjoin]

theorem toNat_and_not_pred {p : BitVec 64} (hp : p.toNat.isPowerOfTwo) (x : BitVec 64) :
    (x &&& ~~~(p - 1)).toNat = x.toNat - x.toNat % p.toNat := by
  obtain ⟨k, hk⟩ := hp
  have hpos : 1 ≤ p.toNat := hk ▸ Nat.one_le_two_pow
  have hlow : (x &&& (p - 1)).toNat = x.toNat % p.toNat := by
    rw [BitVec.toNat_and, BitVec.toNat_sub_of_le (by simp [BitVec.le_def, hpos]),
      show (1 : BitVec 64).toNat = 1 from rfl, hk, Nat.and_pow_two_sub_one_eq_mod]
  have := and_not_add_and x (p - 1)
  omega

theorem toNat_add_sub_one (s p : SizeT) (hp : 1 ≤ p.toNat) :
    (s + p - 1).toNat = (s.toNat + p.toNat - 1) % 2 ^ 64 := by
  have hs := s.isLt
  have hp' := p.isLt
  rw [BitVec.toNat_sub, BitVec.toNat_add, show (1 : SizeT).toNat = 1 from rfl]
  omega

/-- The page-rounded size: the wrapped sum `y = s + p - 1`, less its remainder mod `p`. -/
theorem roundUpToPage_toNat {p : SizeT} (hp : p.toNat.isPowerOfTwo) (s : SizeT) :
    (roundUpToPage p s).toNat =
      (s.toNat + p.toNat - 1) % 2 ^ 64 - (s.toNat + p.toNat - 1) % 2 ^ 64 % p.toNat := by
  rw [roundUpToPage, toNat_and_not_pred hp, toNat_add_sub_one s p (Nat.pos_of_isPowerOfTwo hp)]

theorem sub_mod_eq_mul_div (y p : Nat) : y - y % p = p * (y / p) := by
  have := Nat.mod_add_div y p
  omega

/-! ## The three cases of the rounding -/

section Rounding

variable {p : SizeT} (hp : p.toNat.isPowerOfTwo)
include hp

theorem roundUpToPage_dvd (s : SizeT) : p.toNat ∣ (roundUpToPage p s).toNat := by
  rw [roundUpToPage_toNat hp, sub_mod_eq_mul_div]
  exact Nat.dvd_mul_right _ _

/-- Without wrap, the rounding is the least multiple of `p` that is at least `s`. -/
theorem roundUpToPage_least {s : SizeT} (h1 : 1 ≤ s.toNat) (h2 : s.toNat ≤ 2 ^ 64 - p.toNat) :
    s.toNat ≤ (roundUpToPage p s).toNat ∧ (roundUpToPage p s).toNat < s.toNat + p.toNat ∧
      ∀ m, p.toNat ∣ m → s.toNat ≤ m → (roundUpToPage p s).toNat ≤ m := by
  have hpos := Nat.pos_of_isPowerOfTwo hp
  have hy : (s.toNat + p.toNat - 1) % 2 ^ 64 = s.toNat + p.toNat - 1 := Nat.mod_eq_of_lt (by omega)
  have hr := Nat.mod_lt (s.toNat + p.toNat - 1) hpos
  rw [roundUpToPage_toNat hp, hy]
  refine ⟨by omega, by omega, fun m ⟨j, hj⟩ hm => ?_⟩
  have hdiv : (s.toNat + p.toNat - 1) / p.toNat < j + 1 :=
    (Nat.div_lt_iff_lt_mul hpos).2 (by rw [Nat.add_mul, Nat.mul_comm]; omega)
  rw [sub_mod_eq_mul_div, hj]
  exact Nat.mul_le_mul_left _ (by omega)

/-- At `s = 0`, and wherever `s + p - 1` wraps, the rounding is `0`. -/
theorem roundUpToPage_eq_zero {s : SizeT} (h : s.toNat = 0 ∨ 2 ^ 64 - p.toNat < s.toNat) :
    roundUpToPage p s = 0 := by
  have hpos := Nat.pos_of_isPowerOfTwo hp
  have hs := s.isLt
  have hp64 := p.isLt
  have hy : (s.toNat + p.toNat - 1) % 2 ^ 64 < p.toNat := by
    rcases h with h | h
    · rw [h, Nat.zero_add, Nat.mod_eq_of_lt (by omega)]
      omega
    · rw [Nat.mod_eq_sub_mod (by omega), Nat.mod_eq_of_lt (by omega)]
      omega
  apply BitVec.eq_of_toNat_eq
  rw [roundUpToPage_toNat hp, Nat.mod_eq_of_lt hy, Nat.sub_self]
  rfl

end Rounding

end AndroidJit

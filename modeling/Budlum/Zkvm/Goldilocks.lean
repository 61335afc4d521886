import Mathlib

/-!
# The Goldilocks field

The constraints of the zkVM are polynomials over the integers modulo `2^64 - 2^32 + 1`.

* `prime_goldilocksP` : **the modulus is prime**, so the constraint system lives in a field.
* `boolCheck_eq_zero`, `inverse_witness` : what the two idioms of the constraint system force, a
  column that is a bit and a column that witnesses an inverse.
-/

namespace Budlum.Zkvm

abbrev goldilocksP : ℕ := 18446744069414584321

theorem goldilocksP_sub_one : goldilocksP - 1 = 2 ^ 32 * (3 * (5 * (17 * (257 * 65537)))) := by
  norm_num

/-- The prime factors of `goldilocksP - 1`. -/
theorem factor_goldilocksP_sub_one {q : ℕ} (hq : q.Prime) (hdvd : q ∣ goldilocksP - 1) :
    q = 2 ∨ q = 3 ∨ q = 5 ∨ q = 17 ∨ q = 257 ∨ q = 65537 := by
  have heq : ∀ {r : ℕ}, r.Prime → q ∣ r → q = r := fun hr h =>
    (Nat.prime_dvd_prime_iff_eq hq hr).1 h
  rw [goldilocksP_sub_one] at hdvd
  simp only [hq.dvd_mul] at hdvd
  rcases hdvd with h | h | h | h | h | h
  · exact .inl (heq Nat.prime_two (hq.dvd_of_dvd_pow h))
  · exact .inr (.inl (heq (by norm_num) h))
  · exact .inr (.inr (.inl (heq (by norm_num) h)))
  · exact .inr (.inr (.inr (.inl (heq (by norm_num) h))))
  · exact .inr (.inr (.inr (.inr (.inl (heq (by norm_num) h)))))
  · exact .inr (.inr (.inr (.inr (.inr (heq (by norm_num) h)))))

/-- Lucas's test with the generator 7. -/
theorem prime_goldilocksP : goldilocksP.Prime := by
  refine lucas_primality _ (7 : ZMod goldilocksP) (by reduce_mod_char) fun q hq hdvd => ?_
  rcases factor_goldilocksP_sub_one hq hdvd with rfl | rfl | rfl | rfl | rfl | rfl
  all_goals norm_num
  all_goals reduce_mod_char
  all_goals decide +kernel

instance : Fact goldilocksP.Prime := ⟨prime_goldilocksP⟩

abbrev Goldilocks : Type := ZMod goldilocksP

-- The numerals that several traces use.
instance atLeastTwo_two : Nat.AtLeastTwo 2 := inferInstance
instance atLeastTwo_three : Nat.AtLeastTwo 3 := inferInstance
instance atLeastTwo_five : Nat.AtLeastTwo 5 := inferInstance
instance atLeastTwo_eight : Nat.AtLeastTwo 8 := inferInstance
instance atLeastTwo_ten : Nat.AtLeastTwo 10 := inferInstance

variable {a b x y : Goldilocks}

/-- Numbers below the modulus are distinct elements. -/
theorem natCast_inj_of_lt {m n : ℕ} (hm : m < goldilocksP) (hn : n < goldilocksP)
    (h : (m : Goldilocks) = n) : m = n := by
  have hmod := (ZMod.natCast_eq_natCast_iff' m n goldilocksP).1 h
  rwa [Nat.mod_eq_of_lt hm, Nat.mod_eq_of_lt hn] at hmod

theorem natCast_ne_zero_of_lt {n : ℕ} (hpos : n ≠ 0) (hn : n < goldilocksP) :
    (n : Goldilocks) ≠ 0 := by
  intro h
  exact hpos (natCast_inj_of_lt hn (by norm_num) (by simpa using h))

/-- The polynomial of `assert_bool`. -/
def boolCheck (x : Goldilocks) : Goldilocks := x * (1 - x)

theorem boolCheck_eq_zero : boolCheck x = 0 ↔ x = 0 ∨ x = 1 := by
  rw [boolCheck, mul_eq_zero, sub_eq_zero, eq_comm (a := 1)]

/-- The inverse witness: if `z = x * y` is a bit and `x * (1 - z) = 0`, then `z` says whether `x`
is nonzero. -/
theorem inverse_witness (h : x * (1 - x * y) = 0) : x * y = if x = 0 then 0 else 1 := by
  split_ifs with hx
  · rw [hx, zero_mul]
  · exact (sub_eq_zero.1 ((mul_eq_zero.1 h).resolve_left hx)).symm

end Budlum.Zkvm

import Coggml.Basic
import Mathlib.Data.Nat.Sqrt
import Mathlib.NumberTheory.LucasPrimality
import Mathlib.Tactic.NormNum.Prime
/-!
# Trial division in `uint32_t`

`ggml_is_prime` and `ggml_matula_factorize` divide by odd `i` while `i * i <= n`, with `i * i` a
`uint32_t` product that wraps past `65536`. An odd square wraps to at most `2^32 - 7`
(`odd_square_mod_le`), so on `4294967291`, the largest 32-bit prime (`prime_four_billion`, by
Lucas's test), the primality loop never stops early and reports the prime composite; every other
input is classified correctly (`ggmlIsPrime_eq`). The factorization diverges on 0
(`matula_factorize_zero_diverges`) and otherwise writes the prime factors in order
(`ggmlMatulaFactorize_eq`), wrapped square or not. The loops carry fuel, one unit per round.
-/

namespace Coggml

/-! ## The primality test -/

/-- The loop `for (uint32_t i = 3; i * i <= n; i += 2) if (n % i == 0) return false;` of
`ggml_is_prime` from `i`, then `return true`. -/
def isPrimeLoop (n : UInt32) : Nat → UInt32 → Option Bool
  | 0, _ => none
  | fuel + 1, i =>
    if i * i ≤ n then if n % i = 0 then some false else isPrimeLoop n fuel (i + 2)
    else some true

/-- `ggml_is_prime(n)`, with the fuel of its loop. -/
def ggmlIsPrime (fuel : Nat) (n : UInt32) : Option Bool :=
  if n < 2 then some false
  else if n = 2 then some true
  else if n % 2 = 0 then some false
  else isPrimeLoop n fuel 3

/-! ## `uint32_t` tests as numbers -/

section Unsigned

/-- The loop condition `i * i <= n`: the square modulo `2^32`. -/
theorem mul_self_le_iff (i n : UInt32) : i * i ≤ n ↔ i.toNat * i.toNat % 2 ^ 32 ≤ n.toNat := by
  rw [← uint32_toNat_mul]
  rfl

/-- The test `n % i == 0`. -/
theorem mod_eq_zero_iff (n i : UInt32) : n % i = 0 ↔ n.toNat % i.toNat = 0 :=
  ⟨fun zero => by rw [← UInt32.toNat_mod, zero]; rfl,
    fun zero => UInt32.toNat.inj (by rw [UInt32.toNat_mod, zero]; rfl)⟩

/-- The step `i += 2`, which does not wrap below `2^32 - 2`. -/
theorem toNat_add_two {i : UInt32} (small : i.toNat + 2 < 2 ^ 32) :
    (i + 2).toNat = i.toNat + 2 := by
  rw [uint32_toNat_add, show (2 : UInt32).toNat = 2 from rfl, Nat.mod_eq_of_lt small]

/-- An odd square is 1 modulo 8, so modulo `2^32` it is at most `2^32 - 7`. -/
theorem odd_square_mod_le {m : Nat} (odd : m % 2 = 1) : m * m % 2 ^ 32 ≤ 2 ^ 32 - 7 := by
  have eight : m * m % 8 = 1 := by
    rcases (by omega : m % 8 = 1 ∨ m % 8 = 3 ∨ m % 8 = 5 ∨ m % 8 = 7) with h | h | h | h <;>
      simp [Nat.mul_mod, h]
  have wrapped : m * m % 2 ^ 32 % 8 = 1 := by
    rw [Nat.mod_mod_of_dvd _ (by norm_num : 8 ∣ 2 ^ 32), eight]
  have := Nat.mod_lt (m * m) (by norm_num : 0 < 2 ^ 32)
  omega

end Unsigned

/-! ## Runs of the loop -/

section Loop

variable {n : UInt32}

/-- A run that passes `d` rounds without a divisor and then finds the square above `n` answers
true, or answers true earlier. -/
theorem isPrimeLoop_true : ∀ (d fuel : Nat) (i : UInt32), i.toNat + 2 * d < 2 ^ 32 → d < fuel →
    (∀ t < d, n.toNat % (i.toNat + 2 * t) ≠ 0) →
    n.toNat < (i.toNat + 2 * d) * (i.toNat + 2 * d) % 2 ^ 32 → isPrimeLoop n fuel i = some true
  | _, 0, _, _, enough, _, _ => absurd enough (Nat.not_lt_zero _)
  | 0, fuel + 1, i, _, _, _, above => by
    rw [Nat.mul_zero, Nat.add_zero] at above
    rw [isPrimeLoop, if_neg (by rw [mul_self_le_iff]; omega)]
  | d + 1, fuel + 1, i, small, enough, noDivisor, above => by
    rw [isPrimeLoop]
    split_ifs with within divides
    · exact absurd ((mod_eq_zero_iff n i).1 divides) (by simpa using noDivisor 0 (by omega))
    · have step := toNat_add_two (i := i) (by omega)
      refine isPrimeLoop_true d fuel (i + 2) (by omega) (by omega) (fun t below => ?_) ?_
      · rw [step, show i.toNat + 2 + 2 * t = i.toNat + 2 * (t + 1) by omega]
        exact noDivisor (t + 1) (by omega)
      · rwa [step, show i.toNat + 2 + 2 * d = i.toNat + 2 * (d + 1) by omega]
    · rfl

/-- A run that passes `d` rounds, each within the square and without a divisor, and then meets
a divisor within the square answers false. -/
theorem isPrimeLoop_false : ∀ (d fuel : Nat) (i : UInt32), i.toNat + 2 * d < 2 ^ 32 → d < fuel →
    (∀ t < d, (i.toNat + 2 * t) * (i.toNat + 2 * t) % 2 ^ 32 ≤ n.toNat ∧
      n.toNat % (i.toNat + 2 * t) ≠ 0) →
    (i.toNat + 2 * d) * (i.toNat + 2 * d) % 2 ^ 32 ≤ n.toNat →
    n.toNat % (i.toNat + 2 * d) = 0 → isPrimeLoop n fuel i = some false
  | _, 0, _, _, enough, _, _, _ => absurd enough (Nat.not_lt_zero _)
  | 0, fuel + 1, i, _, _, _, within, divides => by
    rw [Nat.mul_zero, Nat.add_zero] at within divides
    rw [isPrimeLoop, if_pos ((mul_self_le_iff i n).2 within),
      if_pos ((mod_eq_zero_iff n i).2 divides)]
  | d + 1, fuel + 1, i, small, enough, passes, within, divides => by
    obtain ⟨first, noDivisor⟩ := passes 0 (by omega)
    rw [Nat.mul_zero, Nat.add_zero] at first noDivisor
    have step := toNat_add_two (i := i) (by omega)
    rw [isPrimeLoop, if_pos ((mul_self_le_iff i n).2 first),
      if_neg fun zero => noDivisor ((mod_eq_zero_iff n i).1 zero)]
    refine isPrimeLoop_false d fuel (i + 2) (by omega) (by omega) (fun t below => ?_) ?_ ?_ <;>
      rw [step]
    · rw [show i.toNat + 2 + 2 * t = i.toNat + 2 * (t + 1) by omega]
      exact passes (t + 1) (by omega)
    · rwa [show i.toNat + 2 + 2 * d = i.toNat + 2 * (d + 1) by omega]
    · rwa [show i.toNat + 2 + 2 * d = i.toNat + 2 * (d + 1) by omega]

end Loop

/-! ## The largest 32-bit prime -/

section Lucas

/-- `acc * base ^ e % m` by squaring, over the `bits` low bits of `e`. -/
def powMod (m : Nat) : Nat → Nat → Nat → Nat → Nat
  | 0, _, _, acc => acc
  | bits + 1, base, e, acc =>
    powMod m bits (base * base % m) (e / 2) (if e % 2 = 1 then acc * base % m else acc)

/-- Squaring computes the power modulo `m`. -/
theorem powMod_modEq (m : Nat) : ∀ bits base e acc, e < 2 ^ bits →
    powMod m bits base e acc ≡ acc * base ^ e [MOD m]
  | 0, base, e, acc, small => by
    rw [show e = 0 by simpa using small, pow_zero, mul_one]
    rfl
  | bits + 1, base, e, acc, small => by
    have half : e / 2 < 2 ^ bits := by rw [pow_succ] at small; omega
    have split : base ^ e = (base * base) ^ (e / 2) * base ^ (e % 2) := by
      rw [← sq, ← pow_mul, ← pow_add, Nat.div_add_mod]
    have digit : (if e % 2 = 1 then acc * base % m else acc) ≡ acc * base ^ (e % 2) [MOD m] := by
      rcases Nat.mod_two_eq_zero_or_one e with even | odd
      · rw [even, if_neg (by omega), pow_zero, mul_one]
      · rw [odd, if_pos rfl, pow_one]
        exact Nat.mod_modEq _ _
    calc powMod m (bits + 1) base e acc
        ≡ (if e % 2 = 1 then acc * base % m else acc) * (base * base % m) ^ (e / 2) [MOD m] :=
          powMod_modEq m bits _ _ _ half
      _ ≡ acc * base ^ (e % 2) * (base * base) ^ (e / 2) [MOD m] :=
          digit.mul ((Nat.mod_modEq _ _).pow _)
      _ = acc * base ^ e := by rw [split, mul_comm ((base * base) ^ _), mul_assoc]

/-- The prime factors of `4294967291 - 1 = 2 * 5 * 19 * 22605091`. -/
theorem prime_dvd_four_billion {q : Nat} (prime : q.Prime) (divides : q ∣ 4294967291 - 1) :
    q = 2 ∨ q = 5 ∨ q = 19 ∨ q = 22605091 := by
  have large : Nat.Prime 22605091 := by norm_num
  rw [show 4294967291 - 1 = 2 * (5 * (19 * 22605091)) by norm_num] at divides
  rcases (Nat.Prime.dvd_mul prime).1 divides with two | divides
  · exact .inl ((Nat.prime_dvd_prime_iff_eq prime Nat.prime_two).1 two)
  rcases (Nat.Prime.dvd_mul prime).1 divides with five | divides
  · exact .inr (.inl ((Nat.prime_dvd_prime_iff_eq prime (by norm_num)).1 five))
  rcases (Nat.Prime.dvd_mul prime).1 divides with nineteen | last
  · exact .inr (.inr (.inl ((Nat.prime_dvd_prime_iff_eq prime (by norm_num)).1 nineteen)))
  · exact .inr (.inr (.inr ((Nat.prime_dvd_prime_iff_eq prime large).1 last)))

/-- A power of 2 in `ZMod p` read off the squaring. -/
theorem two_pow_eq_one_iff {p k : Nat} (small : k < 2 ^ 33) :
    (2 : ZMod p) ^ k = 1 ↔ powMod p 33 2 k 1 % p = 1 % p := by
  rw [show (2 : ZMod p) ^ k = ((2 ^ k : Nat) : ZMod p) by push_cast; rfl, ← Nat.cast_one,
    ZMod.natCast_eq_natCast_iff', ← one_mul (2 ^ k)]
  exact ⟨fun same => (powMod_modEq p 33 2 k 1 small).trans same,
    fun same => (powMod_modEq p 33 2 k 1 small).symm.trans same⟩

/-- `4294967291 = 2^32 - 5` is prime: 2 has order `4294967290` modulo it. -/
theorem prime_four_billion : Nat.Prime 4294967291 := by
  refine lucas_primality 4294967291 2 ((two_pow_eq_one_iff (by norm_num)).2 (by decide))
    fun q prime divides => ?_
  rw [Ne, two_pow_eq_one_iff (lt_of_le_of_lt (Nat.div_le_self _ _) (by norm_num))]
  rcases prime_dvd_four_billion prime divides with rfl | rfl | rfl | rfl <;> decide

end Lucas

/-! ## What the test answers -/

section Answer

variable {n : UInt32} {fuel : Nat}

/-- Where the loop stops on an odd prime `N < 2^32` other than `2^32 - 5`: just past `sqrt N`
when `N < 65535^2`, else at `479772853`, whose square wraps to `2^32 - 7`. -/
theorem exists_stop {N : Nat} (bounded : N < 2 ^ 32) (prime : N.Prime) (odd : N % 2 = 1)
    (other : N ≠ 4294967291) : ∃ k, k % 2 = 1 ∧ 3 ≤ k ∧ k ≤ N ∧ N < k * k % 2 ^ 32 := by
  have three : 3 ≤ N := by have := prime.two_le; omega
  by_cases low : N < 65535 * 65535
  · have below : N < (N.sqrt + 1) * (N.sqrt + 1) := Nat.lt_succ_sqrt N
    have within : N.sqrt * N.sqrt ≤ N := Nat.sqrt_le N
    have small : N.sqrt < 65535 := Nat.sqrt_lt.2 low
    have positive : 1 ≤ N.sqrt := Nat.le_sqrt.2 (by omega)
    have grow := Nat.mul_self_le_mul_self (show N.sqrt + 1 ≤ N.sqrt + 1 + N.sqrt % 2 by omega)
    have cap := Nat.mul_self_le_mul_self (show N.sqrt + 1 + N.sqrt % 2 ≤ 65535 by omega)
    refine ⟨N.sqrt + 1 + N.sqrt % 2, by omega, by omega, ?_, ?_⟩
    · rcases (by omega : N.sqrt = 1 ∨ 2 ≤ N.sqrt) with one | two
      · omega
      · have := Nat.mul_le_mul_right N.sqrt two
        omega
    · rw [Nat.mod_eq_of_lt (by omega)]
      omega
  · have high : N ≤ 4294967288 := by
      by_contra above
      rcases (by omega : N = 4294967289 ∨ N = 4294967293 ∨ N = 4294967295) with h | h | h <;>
        rw [h] at prime <;> norm_num at prime
    refine ⟨479772853, by norm_num, by norm_num, by omega, ?_⟩
    rw [show 479772853 * 479772853 % 2 ^ 32 = 4294967289 by norm_num]
    omega

theorem toNat_two : (2 : UInt32).toNat = 2 := rfl

theorem toNat_three : (3 : UInt32).toNat = 3 := rfl

/-- On an odd `n >= 3` the test is the loop from 3. -/
theorem ggmlIsPrime_of_odd (odd : n.toNat % 2 = 1) (three : 3 ≤ n.toNat) :
    ggmlIsPrime fuel n = isPrimeLoop n fuel 3 := by
  rw [ggmlIsPrime, if_neg (show ¬ n < 2 from show ¬ n.toNat < 2 by omega),
    if_neg fun (two : n = 2) => absurd (two ▸ three : 3 ≤ (2 : UInt32).toNat) (by decide),
    if_neg (mt (mod_eq_zero_iff n 2).1 (by rw [toNat_two]; omega))]

/-- On an odd composite `n` the loop reaches the least prime factor `p`, whose square does not
wrap. -/
theorem isPrimeLoop_composite (enough : 2 ^ 31 ≤ fuel) (odd : n.toNat % 2 = 1)
    (three : 3 ≤ n.toNat) (composite : ¬ n.toNat.Prime) : isPrimeLoop n fuel 3 = some false := by
  have bounded : n.toNat < 2 ^ 32 := n.toNat_lt_size
  have factor := Nat.minFac_prime (show n.toNat ≠ 1 by omega)
  have square : n.toNat.minFac * n.toNat.minFac ≤ n.toNat := by
    simpa [sq] using Nat.minFac_sq_le_self (by omega) composite
  have divides := Nat.minFac_dvd n.toNat
  have pOdd : n.toNat.minFac % 2 = 1 := by
    by_contra even
    exact Nat.two_dvd_ne_zero.2 odd (Nat.dvd_trans (Nat.dvd_of_mod_eq_zero (by omega)) divides)
  have pThree : 3 ≤ n.toNat.minFac := by have := factor.two_le; omega
  have grow := Nat.le_mul_self n.toNat.minFac
  have reach : 3 + 2 * ((n.toNat.minFac - 3) / 2) = n.toNat.minFac := by omega
  refine isPrimeLoop_false ((n.toNat.minFac - 3) / 2) fuel 3 (by rw [toNat_three]; omega)
    (by omega) (fun t below => ?_) ?_ ?_ <;> rw [toNat_three]
  · have lower := Nat.mul_self_lt_mul_self (show 3 + 2 * t < n.toNat.minFac by omega)
    refine ⟨by rw [Nat.mod_eq_of_lt (by omega)]; omega, fun zero => ?_⟩
    have := Nat.minFac_le_of_dvd (by omega) (Nat.dvd_of_mod_eq_zero zero)
    omega
  · rw [reach, Nat.mod_eq_of_lt (by omega)]
    exact square
  · rw [reach]
    exact Nat.mod_eq_zero_of_dvd divides

/-- On an odd prime other than `4294967291` the loop stops, without a divisor, where the square
first exceeds `n`. -/
theorem isPrimeLoop_prime (enough : 2 ^ 31 ≤ fuel) (prime : n.toNat.Prime)
    (odd : n.toNat % 2 = 1) (other : n.toNat ≠ 4294967291) : isPrimeLoop n fuel 3 = some true := by
  obtain ⟨k, kOdd, kThree, kLe, above⟩ := exists_stop n.toNat_lt_size prime odd other
  have reach : 3 + 2 * ((k - 3) / 2) = k := by omega
  have bounded : n.toNat < 2 ^ 32 := n.toNat_lt_size
  refine isPrimeLoop_true ((k - 3) / 2) fuel 3 (by rw [toNat_three]; omega) (by omega)
    (fun t below zero => ?_) ?_ <;> rw [toNat_three] at *
  · rcases prime.eq_one_or_self_of_dvd _ (Nat.dvd_of_mod_eq_zero zero) with h | h <;> omega
  · rwa [reach]

/-- On `4294967291` every odd square wraps to at most `2^32 - 7`, below `n`: the test never
answers true. -/
theorem isPrimeLoop_four_billion_ne_true :
    ∀ (fuel : Nat) (i : UInt32), i.toNat % 2 = 1 → isPrimeLoop 4294967291 fuel i ≠ some true
  | 0, _, _ => nofun
  | fuel + 1, i, odd => by
    have within := odd_square_mod_le odd
    rw [isPrimeLoop, if_pos ((mul_self_le_iff i _).2 (le_trans within (by decide)))]
    split_ifs
    · nofun
    · refine isPrimeLoop_four_billion_ne_true fuel (i + 2) ?_
      rw [uint32_toNat_add]
      exact (by omega : ∀ x, x % 2 = 1 → (x + 2) % 2 ^ 32 % 2 = 1) _ odd

/-- On `4294967291` the loop passes every odd `i < n` and answers false at `i = n`. -/
theorem isPrimeLoop_four_billion (enough : 2 ^ 31 ≤ fuel) :
    isPrimeLoop 4294967291 fuel 3 = some false := by
  have value : (4294967291 : UInt32).toNat = 4294967291 := rfl
  refine isPrimeLoop_false 2147483644 fuel 3 (by rw [toNat_three]; norm_num) (by omega)
    (fun t below => ?_) ?_ ?_ <;> rw [toNat_three, value]
  · refine ⟨le_trans (odd_square_mod_le (by omega)) (by norm_num), fun zero => ?_⟩
    rcases prime_four_billion.eq_one_or_self_of_dvd _ (Nat.dvd_of_mod_eq_zero zero) with h | h <;>
      omega
  · exact le_trans (odd_square_mod_le (by omega)) (by norm_num)

/-- `ggml_is_prime` answers whether `n` is prime for every `n` but `4294967291`, given the
`2^31` rounds its loop may take. -/
theorem ggmlIsPrime_eq (enough : 2 ^ 31 ≤ fuel) (n : UInt32) :
    ggmlIsPrime fuel n = some (decide (n.toNat.Prime ∧ n.toNat ≠ 4294967291)) := by
  unfold ggmlIsPrime
  split_ifs with small two even
  · have : n.toNat < 2 := small
    simp [show ¬ n.toNat.Prime from fun prime => absurd prime.two_le (by omega)]
  · subst two
    decide
  · have large : ¬ n.toNat < 2 := small
    have other : n.toNat ≠ 2 := fun same => two (UInt32.toNat.inj same)
    have halves := Nat.dvd_of_mod_eq_zero ((mod_eq_zero_iff n 2).1 even)
    have composite : ¬ n.toNat.Prime := fun prime => by
      rcases prime.eq_one_or_self_of_dvd 2 halves with h | h <;> omega
    simp [composite]
  · have large : ¬ n.toNat < 2 := small
    have other : n.toNat ≠ 2 := fun same => two (UInt32.toNat.inj same)
    have odd : n.toNat % 2 = 1 := Nat.mod_two_ne_zero.1 (mt (mod_eq_zero_iff n 2).2 even)
    by_cases prime : n.toNat.Prime
    · by_cases most : n.toNat = 4294967291
      · obtain rfl : n = 4294967291 := UInt32.toNat.inj most
        rw [isPrimeLoop_four_billion enough]
        simp
      · rw [isPrimeLoop_prime enough prime odd most]
        simp [prime, most]
    · rw [isPrimeLoop_composite enough odd (by omega) prime]
      simp [prime]

/-- `ggml_is_prime(4294967291)` never answers true, and with the rounds it needs answers false,
though 4294967291 is prime. -/
theorem largest_prime_reported_composite :
    (4294967291 : UInt32).toNat.Prime ∧ (∀ fuel, ggmlIsPrime fuel 4294967291 ≠ some true) ∧
      ggmlIsPrime (2 ^ 31) 4294967291 = some false :=
  have odd : (4294967291 : UInt32).toNat % 2 = 1 := rfl
  have three : 3 ≤ (4294967291 : UInt32).toNat := by decide
  ⟨prime_four_billion,
    fun fuel => ggmlIsPrime_of_odd odd three ▸ isPrimeLoop_four_billion_ne_true fuel 3 rfl,
    (ggmlIsPrime_of_odd odd three).trans (isPrimeLoop_four_billion le_rfl)⟩

end Answer

/-! ## Factorization -/

section Factorize

/-- `while (n % i == 0) { factors[(*factor_count)++] = i; n /= i; }`, the factors written so far
kept as a list. -/
def divideOut (i : UInt32) : Nat → UInt32 → List UInt32 → Option (UInt32 × List UInt32)
  | 0, _, _ => none
  | fuel + 1, n, factors =>
    if n % i = 0 then divideOut i fuel (n / i) (factors ++ [i]) else some (n, factors)

/-- The loop `for (uint32_t i = 3; i * i <= n; i += 2)` of `ggml_matula_factorize` from `i`, each
round dividing `i` out with `fuel` rounds of its own. -/
def oddFactors (fuel : Nat) : Nat → UInt32 → UInt32 → List UInt32 → Option (UInt32 × List UInt32)
  | 0, _, _, _ => none
  | rounds + 1, i, n, factors =>
    if i * i ≤ n then
      (divideOut i fuel n factors).bind fun (n, factors) => oddFactors fuel rounds (i + 2) n factors
    else some (n, factors)

/-- `ggml_matula_factorize(matula_value, factors, &factor_count)`: the factors it writes, in
order, `factor_count` being their number. -/
def ggmlMatulaFactorize (fuel : Nat) (matulaValue : UInt32) : Option (List UInt32) :=
  (divideOut 2 fuel matulaValue []).bind fun (n, factors) =>
    (oddFactors fuel fuel 3 n factors).map fun (n, factors) =>
      if n > 2 then factors ++ [n] else factors

/-- Dividing out of 0 never stops: `0 % i == 0` and `0 / i == 0` for every `i`. -/
theorem divideOut_zero (i : UInt32) : ∀ fuel factors, divideOut i fuel 0 factors = none
  | 0, _ => rfl
  | fuel + 1, factors => by
    have divides : (0 : UInt32) % i = 0 := (mod_eq_zero_iff 0 i).2 (Nat.zero_mod _)
    have quotient : (0 : UInt32) / i = 0 :=
      UInt32.toNat.inj (by rw [UInt32.toNat_div]; exact Nat.zero_div _)
    rw [divideOut, if_pos divides, quotient, divideOut_zero i fuel]

/-- `ggml_matula_factorize(0, ...)` halves 0 forever, writing 2 at every round. -/
theorem matula_factorize_zero_diverges : ∀ fuel, ggmlMatulaFactorize fuel 0 = none := fun fuel => by
  rw [ggmlMatulaFactorize, divideOut_zero]
  rfl

/-- Dividing `i >= 2` out of `n >= 1` stops with `n = i^k * m` and `i` no longer dividing `m`,
having written `k` copies of `i`. -/
theorem divideOut_spec {i : UInt32} (two : 2 ≤ i.toNat) :
    ∀ fuel (n : UInt32) (factors : List UInt32), 0 < n.toNat → n.toNat < 2 ^ fuel →
      ∃ m k, divideOut i fuel n factors = some (m, factors ++ List.replicate k i) ∧
        n.toNat = i.toNat ^ k * m.toNat ∧ ¬ i.toNat ∣ m.toNat
  | 0, _, _, positive, bounded => absurd bounded (by rw [pow_zero]; omega)
  | fuel + 1, n, factors, positive, bounded => by
    rw [divideOut]
    split_ifs with divides
    · have zero := (mod_eq_zero_iff n i).1 divides
      have quotient : (n / i).toNat = n.toNat / i.toNat := UInt32.toNat_div n i
      have split := Nat.div_mul_cancel (Nat.dvd_of_mod_eq_zero zero)
      have halved : n.toNat / i.toNat * 2 ≤ n.toNat :=
        calc n.toNat / i.toNat * 2 ≤ n.toNat / i.toNat * i.toNat := Nat.mul_le_mul_left _ two
          _ = n.toNat := split
      have nonzero : 0 < n.toNat / i.toNat :=
        Nat.pos_of_ne_zero fun empty => by rw [empty, Nat.zero_mul] at split; omega
      rw [pow_succ] at bounded
      obtain ⟨m, k, divide, power, rest⟩ := divideOut_spec two fuel (n / i) (factors ++ [i])
        (by rwa [quotient]) (by rw [quotient]; omega)
      refine ⟨m, k + 1, by rw [divide, List.append_assoc, List.singleton_append,
        List.replicate_succ], ?_, rest⟩
      rw [← split, ← quotient, power, pow_succ]
      ring
    · exact ⟨n, 0, by rw [List.replicate_zero, List.append_nil], by rw [pow_zero, one_mul],
        fun dvd => divides ((mod_eq_zero_iff n i).2 (Nat.mod_eq_zero_of_dvd dvd))⟩

/-- A list of primes in order is the factorization of its product. -/
theorem eq_primeFactorsList {l : List Nat} {N : Nat} (product : l.prod = N)
    (primes : ∀ p ∈ l, p.Prime) (sorted : l.Sorted (· ≤ ·)) : l = N.primeFactorsList :=
  List.eq_of_perm_of_sorted (Nat.primeFactorsList_unique product primes) sorted
    (Nat.primeFactorsList_sorted N)

/-- What `ggml_matula_factorize` has established when its loop reaches `i` with `m` left of
`N`: the factors written are primes in order, all below `i`, together with `m` they make `N`,
and every prime factor of `m` is at least `i`. -/
structure FactorState (N : Nat) (i m : UInt32) (factors : List UInt32) : Prop where
  odd : i.toNat % 2 = 1
  three : 3 ≤ i.toNat
  top : i.toNat ≤ 2 ^ 32 - 3
  product : (factors.map UInt32.toNat).prod * m.toNat = N
  primes : ∀ f ∈ factors, f.toNat.Prime
  sorted : (factors.map UInt32.toNat).Sorted (· ≤ ·)
  below : ∀ f ∈ factors, f.toNat < i.toNat
  rough : ∀ q, q.Prime → q ∣ m.toNat → i.toNat ≤ q

namespace FactorState

variable {N : Nat} {i m : UInt32} {factors : List UInt32}

theorem primes_map (state : FactorState N i m factors) :
    ∀ p ∈ factors.map UInt32.toNat, p.Prime := fun _ mem => by
  obtain ⟨f, found, rfl⟩ := List.mem_map.1 mem
  exact state.primes f found

theorem remainder_pos (state : FactorState N i m factors) (positive : 0 < N) : 0 < m.toNat :=
  Nat.pos_of_ne_zero fun zero => by rw [← state.product, zero, Nat.mul_zero] at positive; omega

/-- At `i = 2^32 - 3` the remainder has no prime factor left below `2^32`, so it is 1 and the
wrapped square 9 exceeds it: the loop never steps past. -/
theorem ne_top (state : FactorState N i m factors) (positive : 0 < N)
    (within : i.toNat * i.toNat % 2 ^ 32 ≤ m.toNat) : i.toNat ≠ 2 ^ 32 - 3 := by
  intro top
  rw [top] at within
  have large : m.toNat ≠ 1 := by norm_num at within; omega
  have prime := Nat.minFac_prime large
  have high := state.rough _ prime (Nat.minFac_dvd _)
  have low := Nat.minFac_le (state.remainder_pos positive)
  have bounded : m.toNat < 2 ^ 32 := m.toNat_lt_size
  rw [top] at high
  obtain ⟨q, hq⟩ : ∃ q, q = m.toNat.minFac := ⟨_, rfl⟩
  rw [← hq] at prime high low
  have upper : q < 2 ^ 32 := by omega
  interval_cases q <;> norm_num at prime

/-- A divisor `i` of the remainder is prime: its least prime factor divides the remainder, so it
is at least `i`. -/
theorem prime_of_dvd (state : FactorState N i m factors) (divides : i.toNat ∣ m.toNat) :
    i.toNat.Prime := by
  have three := state.three
  exact Nat.prime_def_minFac.2 ⟨by omega, le_antisymm (Nat.minFac_le (by omega))
    (state.rough _ (Nat.minFac_prime (by omega)) ((Nat.minFac_dvd _).trans divides))⟩

/-- A round that divides out `k` copies of `i` moves the state on to `i + 2`. -/
theorem step (state : FactorState N i m factors) (notTop : i.toNat ≠ 2 ^ 32 - 3) {rest : UInt32}
    {k : Nat} (split : m.toNat = i.toNat ^ k * rest.toNat) (gone : ¬ i.toNat ∣ rest.toNat) :
    FactorState N (i + 2) rest (factors ++ List.replicate k i) := by
  have ⟨odd, three, top, product, primes, sorted, below, rough⟩ := state
  have next : (i + 2).toNat = i.toNat + 2 := toNat_add_two (by omega)
  have written : ∀ f ∈ List.replicate k i, f = i ∧ i.toNat.Prime := fun f mem => by
    have positive : k ≠ 0 := by rintro rfl; simp at mem
    exact ⟨List.eq_of_mem_replicate mem,
      state.prime_of_dvd (split ▸ Dvd.dvd.mul_right (dvd_pow_self _ positive) _)⟩
  refine ⟨by omega, by omega, by omega, ?_, fun f mem => ?_, ?_, fun f mem => ?_,
    fun q prime dvd => ?_⟩
  · rw [List.map_append, List.prod_append, List.map_replicate, List.prod_replicate, mul_assoc,
      ← split, product]
  · rcases List.mem_append.1 mem with old | new
    · exact primes f old
    · obtain ⟨rfl, prime⟩ := written f new
      exact prime
  · rw [List.map_append, List.map_replicate]
    refine List.pairwise_append.2 ⟨sorted, List.pairwise_replicate.2 (.inr le_rfl), ?_⟩
    intro a old b new
    obtain ⟨f, mem, rfl⟩ := List.mem_map.1 old
    rw [List.eq_of_mem_replicate new]
    exact (below f mem).le
  · rw [next]
    rcases List.mem_append.1 mem with old | new
    · have := below f old
      omega
    · rw [(written f new).1]
      omega
  · have least := rough q prime (split ▸ Dvd.dvd.mul_left dvd _)
    have other : q ≠ i.toNat := fun same => gone (same ▸ dvd)
    have oddQ := Nat.odd_iff.1 (prime.odd_of_ne_two (by omega))
    rw [next]
    omega

/-- When the loop stops, the remainder is 1 or a prime: a composite would have a prime factor
whose square lies between `i * i` and the remainder, and below `2^32`. -/
theorem finished (state : FactorState N i m factors) (positive : 0 < N)
    (above : m.toNat < i.toNat * i.toNat % 2 ^ 32) : m.toNat = 1 ∨ m.toNat.Prime := by
  by_contra neither
  push_neg at neither
  have bounded : m.toNat < 2 ^ 32 := m.toNat_lt_size
  have square : m.toNat.minFac * m.toNat.minFac ≤ m.toNat := by
    simpa [sq] using Nat.minFac_sq_le_self (state.remainder_pos positive) neither.2
  have least := state.rough _ (Nat.minFac_prime neither.1) (Nat.minFac_dvd _)
  have grow := Nat.mul_self_le_mul_self least
  rw [Nat.mod_eq_of_lt (by omega)] at above
  omega

/-- The factors a finished state writes are the factorization of `N`. -/
theorem result (state : FactorState N i m factors)
    (done : m.toNat = 1 ∨ m.toNat.Prime) :
    (if m > 2 then factors ++ [m] else factors).map UInt32.toNat = N.primeFactorsList := by
  rcases done with one | prime
  · rw [if_neg fun (larger : m > 2) => absurd (show 2 < m.toNat from larger) (by omega)]
    exact eq_primeFactorsList (by rw [← state.product, one, Nat.mul_one]) state.primes_map
      state.sorted
  · have least := state.rough _ prime dvd_rfl
    have three := state.three
    rw [if_pos (show m > 2 from show 2 < m.toNat by omega), List.map_append, List.map_singleton]
    refine eq_primeFactorsList (by rw [List.prod_append, List.prod_singleton, state.product])
      (fun p mem => (List.mem_append.1 mem).elim (state.primes_map p)
        fun last => List.mem_singleton.1 last ▸ prime) (List.pairwise_append.2 ⟨state.sorted,
        List.pairwise_singleton _ _, fun a old b new => ?_⟩)
    obtain ⟨f, mem, rfl⟩ := List.mem_map.1 old
    rw [List.mem_singleton.1 new]
    exact ((state.below f mem).trans_le least).le

end FactorState

/-- From any state, the odd-divisor loop given enough rounds ends in a finished state. -/
theorem oddFactors_spec {N fuel : Nat} (positive : 0 < N) (enough : 32 ≤ fuel) :
    ∀ (rounds : Nat) (i m : UInt32) (factors : List UInt32), FactorState N i m factors →
      (2 ^ 32 - 3 - i.toNat) / 2 < rounds →
      ∃ last rest written, oddFactors fuel rounds i m factors = some (rest, written) ∧
        FactorState N last rest written ∧ (rest.toNat = 1 ∨ rest.toNat.Prime)
  | 0, _, _, _, _, short => absurd short (Nat.not_lt_zero _)
  | rounds + 1, i, m, factors, state, long => by
    rw [oddFactors]
    split_ifs with within
    · have square := (mul_self_le_iff i m).1 within
      have notTop := state.ne_top positive square
      have bounded : m.toNat < 2 ^ fuel :=
        lt_of_lt_of_le (m.toNat_lt_size : m.toNat < 2 ^ 32) (Nat.pow_le_pow_right two_pos enough)
      obtain ⟨rest, k, divide, split, gone⟩ :=
        divideOut_spec (i := i) (by have := state.three; omega) fuel m factors
          (state.remainder_pos positive) bounded
      have next : (i + 2).toNat = i.toNat + 2 := toNat_add_two (by have := state.top; omega)
      rw [divide]
      have top := state.top
      have odd := state.odd
      exact oddFactors_spec positive enough rounds (i + 2) rest _ (state.step notTop split gone)
        (by rw [next]; omega)
    · have above : m.toNat < i.toNat * i.toNat % 2 ^ 32 := by
        rw [mul_self_le_iff] at within
        omega
      exact ⟨i, m, factors, rfl, state, state.finished positive above⟩

/-- For every `matula_value >= 1`, given `2^31` rounds, `ggml_matula_factorize` writes the prime
factorization of `matula_value` in non-decreasing order, `factor_count` being its length. -/
theorem ggmlMatulaFactorize_eq {fuel : Nat} (enough : 2 ^ 31 ≤ fuel) {matulaValue : UInt32}
    (positive : 0 < matulaValue.toNat) : ∃ factors, ggmlMatulaFactorize fuel matulaValue =
      some factors ∧ factors.map UInt32.toNat = matulaValue.toNat.primeFactorsList := by
  have bounded : matulaValue.toNat < 2 ^ fuel :=
    lt_of_lt_of_le (matulaValue.toNat_lt_size : matulaValue.toNat < 2 ^ 32)
      (Nat.pow_le_pow_right two_pos (show 32 ≤ fuel by omega))
  obtain ⟨m, k, halve, split, odd⟩ :=
    divideOut_spec (i := 2) (by decide) fuel matulaValue [] positive bounded
  rw [toNat_two] at split odd
  have twos : ∀ f ∈ [] ++ List.replicate k (2 : UInt32), f.toNat = 2 := fun f mem => by
    rw [List.nil_append] at mem
    rw [List.eq_of_mem_replicate mem, toNat_two]
  have start : FactorState matulaValue.toNat 3 m ([] ++ List.replicate k 2) := by
    refine ⟨rfl, by rw [toNat_three], by rw [toNat_three]; norm_num, ?_,
      fun f mem => by rw [twos f mem]; exact Nat.prime_two, ?_,
      fun f mem => by rw [twos f mem, toNat_three]; decide, fun q prime dvd => ?_⟩
    · rw [List.nil_append, List.map_replicate, List.prod_replicate, toNat_two, split]
    · rw [List.nil_append, List.map_replicate]
      exact List.pairwise_replicate.2 (.inr le_rfl)
    · have := prime.two_le
      have other : q ≠ 2 := fun two => odd (two ▸ dvd)
      rw [toNat_three]
      omega
  obtain ⟨last, rest, written, loop, state, done⟩ :=
    @oddFactors_spec _ fuel positive (by omega) fuel 3 m _ start (by rw [toNat_three]; omega)
  refine ⟨_, ?_, state.result done⟩
  rw [ggmlMatulaFactorize, halve]
  dsimp only [bind, Option.bind]
  rw [loop]
  rfl

end Factorize

end Coggml

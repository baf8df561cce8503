import Mathlib.Data.Nat.Prime.Nth
import Mathlib.Data.Nat.Choose.Factorization
import Mathlib.NumberTheory.PrimeCounting
/-!
# The prime table of the Matula encoder

`generate_primes` is a sieve of Eratosthenes over `[2, limit]` that stops once the table
holds `GGML_COGNITIVE_MAX_PRIMES` primes; `ggml_nth_prime` reads a static table filled with
limit 10000, and `ggml_prime_offset(n)` is `ggml_nth_prime(n + 1)`. The sieve is exact
(`generatePrimes_eq`): the table is the first primes, at most 1024 of them, so entry `k` is
`Nat.nth Nat.Prime k` (`primeLookup_getElem`) and every index past the table reads 0
(`ggmlPrimeOffset_of_length_le`).

The encoder multiplies such primes into a `uint32`; to know when a Matula code fits, the
last section bounds the primes from above by Chebyshev's argument on the central binomial
coefficient (`nth_prime_lt_of_lt`).
-/

namespace Coggml

/-! ## The sieve -/

/-- `GGML_COGNITIVE_MAX_PRIMES`, the capacity of the prime table. -/
def ggmlCognitiveMaxPrimes : Nat := 1024

/-- The inner loop of `generate_primes`: `is_prime[j] = false` for `j = i * i, i * i + i, ...`
while `j <= limit`. -/
def markMultiples (limit i : Nat) (isPrime : Nat → Bool) : Nat → Bool :=
  (List.range' (i * i) ((limit + i - i * i) / i) i).foldl
    (fun marks j => Function.update marks j false) isPrime

/-- The outer loop of `generate_primes` over the candidates left: a number still marked is
appended, the loop breaks once the table is full, and otherwise the new prime's multiples
are struck. -/
def sieveFrom (limit : Nat) : List Nat → (Nat → Bool) → List Nat → List Nat
  | [], _, primes => primes
  | i :: rest, isPrime, primes =>
    if isPrime i then
      if ggmlCognitiveMaxPrimes ≤ primes.length + 1 then primes ++ [i]
      else sieveFrom limit rest (markMultiples limit i isPrime) (primes ++ [i])
    else sieveFrom limit rest isPrime primes

/-- `generate_primes(primes, &count, limit)`: the table it fills, in order. -/
def generatePrimes (limit : Nat) : List Nat :=
  sieveFrom limit (List.range' 2 (limit - 1)) (fun i => decide (2 ≤ i ∧ i ≤ limit)) []

/-- The static table of `ggml_nth_prime`, filled by `ggml_init_prime_lookup`. -/
def primeLookup : List Nat := generatePrimes 10000

/-- `ggml_nth_prime(n)`: entry `n - 1` of the static table, and 0 for `n = 0` or past the
table. -/
def ggmlNthPrime (n : UInt32) : UInt32 :=
  if n = 0 ∨ primeLookup.length < n.toNat then 0
  else (primeLookup.getD (n.toNat - 1) 0).toUInt32

/-- `ggml_prime_offset(n)`: `ggml_nth_prime(n + 1)`, the `(n + 1)`-th prime. -/
def ggmlPrimeOffset (n : UInt32) : UInt32 := ggmlNthPrime (n + 1)

/-! ## The sieve is exact -/

section Sieve

/-- Striking a list of numbers clears exactly their marks. -/
theorem foldl_update_false (f : Nat → Bool) (j : Nat) :
    ∀ targets : List Nat,
      targets.foldl (fun marks k => Function.update marks k false) f j = (f j && !decide (j ∈ targets))
  | [] => by simp
  | k :: rest => by
    rw [List.foldl_cons, foldl_update_false _ j rest]
    by_cases hit : j = k
    · subst hit; simp
    · simp [hit, Function.update_noteq]

/-- The inner loop visits the multiples of `i` from `i * i` up to `limit`. -/
theorem mem_multiples {limit i j : Nat} (pos : 0 < i) :
    j ∈ List.range' (i * i) ((limit + i - i * i) / i) i ↔ i * i ≤ j ∧ j ≤ limit ∧ i ∣ j := by
  rw [List.mem_range']
  constructor
  · rintro ⟨k, below, rfl⟩
    have fits := (Nat.le_div_iff_mul_le pos).1 below
    rw [Nat.succ_mul, Nat.mul_comm k] at fits
    exact ⟨Nat.le_add_right _ _, by omega, Nat.dvd_add (Nat.dvd_mul_right i i) (Nat.dvd_mul_right i k)⟩
  · rintro ⟨above, within, k, rfl⟩
    have square : i * i ≤ i * k := above
    have step : i ≤ k := Nat.le_of_mul_le_mul_left square pos
    refine ⟨k - i, (Nat.le_div_iff_mul_le pos).2 ?_, ?_⟩
    · rw [Nat.succ_mul, Nat.mul_comm (k - i), Nat.mul_sub]
      omega
    · rw [Nat.mul_sub]
      omega

/-- One pass of the inner loop for `i ≥ 1`, read as a whole. -/
theorem markMultiples_apply {limit i : Nat} (pos : 0 < i) (isPrime : Nat → Bool) (j : Nat) :
    markMultiples limit i isPrime j =
      (isPrime j && !decide (i * i ≤ j ∧ j ≤ limit ∧ i ∣ j)) := by
  simp only [markMultiples, foldl_update_false, mem_multiples pos]

/-- The marks when the outer loop reaches `i`: a number in `[2, limit]` is still marked unless
a prime below `i` divides it at or above its square. -/
def Sieved (limit i : Nat) (isPrime : Nat → Bool) : Prop :=
  ∀ j, isPrime j = true ↔ 2 ≤ j ∧ j ≤ limit ∧ ∀ p < i, p.Prime → p ∣ j → j < p * p

/-- At `i`, the mark of `i` itself is its primality. -/
theorem Sieved.mark_iff {limit i : Nat} {isPrime : Nat → Bool} (sieved : Sieved limit i isPrime)
    (within : i ≤ limit) (two : 2 ≤ i) : isPrime i = true ↔ i.Prime := by
  rw [sieved]
  constructor
  · rintro ⟨-, -, survives⟩
    by_contra composite
    have factor : i.minFac.Prime := Nat.minFac_prime (by omega)
    have square : i.minFac ^ 2 ≤ i := Nat.minFac_sq_le_self (by omega) composite
    have smaller : i.minFac < i :=
      lt_of_le_of_ne (Nat.minFac_le (by omega)) fun same => composite (same ▸ factor)
    have := survives _ smaller factor (Nat.minFac_dvd i)
    rw [sq] at square
    omega
  · intro prime
    refine ⟨two, within, fun p below factor divides => ?_⟩
    rcases prime.eq_one_or_self_of_dvd p divides with rfl | rfl
    · exact absurd factor Nat.not_prime_one
    · omega

/-- Striking the multiples of a prime `i` moves the invariant to `i + 1`. -/
theorem Sieved.markMultiples {limit i : Nat} {isPrime : Nat → Bool}
    (sieved : Sieved limit i isPrime) (prime : i.Prime) :
    Sieved limit (i + 1) (markMultiples limit i isPrime) := by
  intro j
  rw [markMultiples_apply prime.pos, Bool.and_eq_true, sieved, Bool.not_eq_true',
    decide_eq_false_iff_not]
  constructor
  · rintro ⟨⟨two, within, survives⟩, unmarked⟩
    refine ⟨two, within, fun p below factor divides => ?_⟩
    rcases Nat.lt_succ_iff_lt_or_eq.1 below with below | rfl
    · exact survives p below factor divides
    · exact Nat.lt_of_not_le fun above => unmarked ⟨above, within, divides⟩
  · rintro ⟨two, within, survives⟩
    exact ⟨⟨two, within, fun p below => survives p (Nat.lt_succ_of_lt below)⟩,
      fun ⟨above, _, divides⟩ => absurd (survives i (Nat.lt_succ_self i) prime divides) (by omega)⟩

/-- A number that is not prime strikes nothing and moves the invariant to `i + 1`. -/
theorem Sieved.succ_of_not_prime {limit i : Nat} {isPrime : Nat → Bool}
    (sieved : Sieved limit i isPrime) (composite : ¬i.Prime) : Sieved limit (i + 1) isPrime := by
  intro j
  rw [sieved]
  refine and_congr_right fun _ => and_congr_right fun _ => ⟨fun survives p below => ?_,
    fun survives p below => survives p (Nat.lt_succ_of_lt below)⟩
  rcases Nat.lt_succ_iff_lt_or_eq.1 below with below | rfl
  · exact survives p below
  · exact fun prime => absurd prime composite

/-- The primes below `i`, in order. -/
theorem filter_range_succ (i : Nat) :
    (List.range (i + 1)).filter (fun p => p.Prime) =
      (List.range i).filter (fun p => p.Prime) ++ if i.Prime then [i] else [] := by
  rw [List.range_succ, List.filter_append]
  by_cases prime : i.Prime <;> simp [prime]

/-- From `i` on, the outer loop appends the primes up to `limit` until the table is full. -/
theorem sieveFrom_eq (limit : Nat) (n : Nat) :
    ∀ i (isPrime : Nat → Bool) (primes : List Nat), 2 ≤ i → i + n = limit + 1 →
      Sieved limit i isPrime → primes = (List.range i).filter (fun p => p.Prime) →
      primes.length < ggmlCognitiveMaxPrimes →
      sieveFrom limit (List.range' i n) isPrime primes =
        ((List.range (limit + 1)).filter (fun p => p.Prime)).take ggmlCognitiveMaxPrimes := by
  induction n with
  | zero =>
    intro i isPrime primes _ last _ listed room
    rw [← last, Nat.add_zero, ← listed, List.take_of_length_le room.le]
    rfl
  | succ n ih =>
    intro i isPrime primes two last sieved listed room
    subst listed
    rw [List.range'_succ, sieveFrom]
    by_cases prime : i.Prime
    · have appended := filter_range_succ i
      rw [if_pos prime] at appended
      rw [if_pos ((sieved.mark_iff (by omega) two).2 prime)]
      split
      · next full =>
        have length : ((List.range (i + 1)).filter (fun p => p.Prime)).length =
            ggmlCognitiveMaxPrimes := by
          rw [appended, List.length_append, List.length_singleton]
          omega
        rw [← appended, ← last, show i + (n + 1) = i + 1 + n by omega, List.range_add (i + 1) n,
          List.filter_append, List.take_append_of_le_length length.ge,
          List.take_of_length_le length.le]
      · next notFull =>
        exact ih (i + 1) _ _ (by omega) (by omega) (sieved.markMultiples prime) appended.symm
          (by rw [List.length_append]; simpa using notFull)
    · rw [if_neg fun mark => prime ((sieved.mark_iff (by omega) two).1 mark)]
      refine ih (i + 1) _ _ (by omega) (by omega) (sieved.succ_of_not_prime prime) ?_ room
      rw [filter_range_succ, if_neg prime, List.append_nil]

/-- `generate_primes` fills the table with the primes up to `limit`, the first 1024 of them
when there are more. -/
theorem generatePrimes_eq (limit : Nat) :
    generatePrimes limit =
      ((List.range (limit + 1)).filter (fun p => p.Prime)).take ggmlCognitiveMaxPrimes := by
  rcases Nat.lt_or_ge limit 2 with small | large
  · interval_cases limit <;> decide
  · refine sieveFrom_eq limit (limit - 1) 2 _ [] le_rfl (by omega) (fun j => ?_) (by decide)
      (by decide)
    simp only [decide_eq_true_eq]
    exact and_congr_right fun _ => (and_iff_left fun p below prime => absurd prime.two_le (by omega)).symm

end Sieve

/-! ## The table holds the first primes -/

section Table

/-- The numbers below `n` satisfying `p` are as many as `Nat.count` counts. -/
theorem length_filter_range (p : Nat → Prop) [DecidablePred p] :
    ∀ n, ((List.range n).filter (fun x => p x)).length = Nat.count p n
  | 0 => rfl
  | n + 1 => by
    rw [List.range_succ, List.filter_append, List.length_append, length_filter_range p n,
      Nat.count_succ]
    by_cases holds : p n <;> simp [holds]

/-- The numbers below `n` satisfying `p`, in order, are `nth p 0, nth p 1, ...`. -/
theorem getElem_filter_range (p : Nat → Prop) [DecidablePred p] :
    ∀ n k (h : k < ((List.range n).filter (fun x => p x)).length),
      ((List.range n).filter (fun x => p x))[k] = Nat.nth p k
  | 0, k, h => absurd h (by simp)
  | n + 1, k, h => by
    have before := length_filter_range p n
    simp only [List.range_succ, List.filter_append] at h ⊢
    by_cases inside : k < ((List.range n).filter (fun x => p x)).length
    · rw [List.getElem_append_left inside, getElem_filter_range p n k inside]
    · by_cases holds : p n
      · simp only [holds, decide_True, List.filter_cons_of_pos, List.filter_nil,
          List.length_append, List.length_singleton] at h ⊢
        have last : k = Nat.count p n := by omega
        rw [List.getElem_append_right (Nat.le_of_not_lt inside)]
        simp [last, before, Nat.nth_count holds]
      · simp [holds] at h
        omega

/-- The static table holds `min 1024 π(10000)` primes. -/
theorem primeLookup_length :
    primeLookup.length = min ggmlCognitiveMaxPrimes (Nat.count Nat.Prime 10001) := by
  rw [primeLookup, generatePrimes_eq, List.length_take, length_filter_range]

/-- Entry `k` of the static table is the `k`-th prime, counting from 0. -/
theorem primeLookup_getElem (k : Nat) (h : k < primeLookup.length) :
    primeLookup[k] = Nat.nth Nat.Prime k := by
  simp only [primeLookup, generatePrimes_eq, List.getElem_take]
  exact getElem_filter_range Nat.Prime _ k _

/-- The table holds at most `GGML_COGNITIVE_MAX_PRIMES` entries. -/
theorem primeLookup_length_le : primeLookup.length ≤ ggmlCognitiveMaxPrimes :=
  primeLookup_length ▸ min_le_left _ _

/-- The table holds `2, 3, 5, 7, ...`: at least the four smallest primes. -/
theorem four_le_primeLookup_length : 4 ≤ primeLookup.length := by
  rw [primeLookup_length]
  have small : Nat.count Nat.Prime 8 ≤ Nat.count Nat.Prime 10001 := Nat.count_monotone _ (by norm_num)
  have four : Nat.count Nat.Prime 8 = 4 := by decide
  exact le_min (by decide) (four ▸ small)

/-- Every entry of the table is below 10001, so it is read back exactly as a `uint32`. -/
theorem nth_prime_lt_of_mem_table (k : Nat) (h : k < primeLookup.length) :
    Nat.nth Nat.Prime k < 10001 := by
  have entry := primeLookup_getElem k h
  have member : primeLookup[k] ∈ (List.range 10001).filter (fun p => p.Prime) :=
    List.mem_of_mem_take (by simp only [primeLookup, generatePrimes_eq] at h ⊢; exact List.getElem_mem _)
  rw [entry, List.mem_filter, List.mem_range] at member
  exact member.1

end Table

/-! ## Reading the table through `uint32` -/

section Offset

/-- `ggml_nth_prime(n)` is the `n`-th prime, counting from 1, inside the table, and 0 outside. -/
theorem ggmlNthPrime_toNat (n : UInt32) :
    (ggmlNthPrime n).toNat =
      if n.toNat = 0 ∨ primeLookup.length < n.toNat then 0 else Nat.nth Nat.Prime (n.toNat - 1) := by
  have zero : n = 0 ↔ n.toNat = 0 := ⟨fun h => h ▸ rfl, fun h => UInt32.toNat.inj h⟩
  unfold ggmlNthPrime
  by_cases outside : n.toNat = 0 ∨ primeLookup.length < n.toNat
  · rw [if_pos (outside.imp zero.2 id), if_pos outside]
    rfl
  · rw [if_neg fun inside => outside (inside.imp zero.1 id), if_neg outside]
    have inside : n.toNat - 1 < primeLookup.length := by omega
    rw [List.getD_eq_getElem _ _ inside, primeLookup_getElem _ inside]
    exact UInt32.toNat_ofNat_of_lt ((nth_prime_lt_of_mem_table _ inside).trans (by decide))

/-- The `uint32` increment of `ggml_prime_offset`, which wraps only at `UINT32_MAX`. -/
theorem toNat_add_one (n : UInt32) : (n + 1).toNat = (n.toNat + 1) % 2 ^ 32 :=
  BitVec.toNat_add _ _

/-- A `uint32` product below `2^32` does not wrap. -/
theorem toNat_mul_of_lt (a b : UInt32) (small : a.toNat * b.toNat < 2 ^ 32) :
    (a * b).toNat = a.toNat * b.toNat :=
  (BitVec.toNat_mul _ _).trans (Nat.mod_eq_of_lt small)

/-- Inside the table, `ggml_prime_offset(n)` is the `(n + 1)`-th prime. -/
theorem ggmlPrimeOffset_toNat (n : UInt32) (inTable : n.toNat < primeLookup.length) :
    (ggmlPrimeOffset n).toNat = Nat.nth Nat.Prime n.toNat := by
  have small : n.toNat + 1 < 2 ^ 32 :=
    lt_of_le_of_lt (inTable.trans_le primeLookup_length_le) (by decide)
  rw [ggmlPrimeOffset, ggmlNthPrime_toNat, toNat_add_one, Nat.mod_eq_of_lt small, if_neg (by omega),
    Nat.add_sub_cancel]

/-- Past the table, `ggml_prime_offset(n)` is 0. -/
theorem ggmlPrimeOffset_of_length_le (n : UInt32) (beyond : primeLookup.length ≤ n.toNat) :
    ggmlPrimeOffset n = 0 := by
  apply UInt32.toNat.inj
  rw [ggmlPrimeOffset, ggmlNthPrime_toNat, toNat_add_one, if_pos]
  · rfl
  · have := n.toNat_lt_size
    rcases Nat.lt_or_ge (n.toNat + 1) (2 ^ 32) with small | wraps
    · exact .inr (by rw [Nat.mod_eq_of_lt small]; omega)
    · exact .inl (by rw [show n.toNat + 1 = 2 ^ 32 by simp [UInt32.size] at this; omega]; rfl)

end Offset

/-! ## How large the primes are -/

section Chebyshev

/-- Chebyshev's bound read off the central binomial coefficient: every prime power dividing
`(2n choose n)` is at most `2n`, so `4^n ≤ 2n (2n)^π(2n)`. -/
theorem four_pow_le_primeCounting (n : Nat) (pos : 0 < n) :
    4 ^ n ≤ 2 * n * (2 * n) ^ Nat.primeCounting (2 * n) := by
  have bound : n.centralBinom ≤ (2 * n) ^ Nat.primeCounting (2 * n) :=
    calc n.centralBinom
        = ∏ p ∈ Finset.range (2 * n + 1), p ^ n.centralBinom.factorization p :=
          (Nat.prod_pow_factorization_centralBinom n).symm
      _ ≤ ∏ p ∈ Finset.range (2 * n + 1), if p.Prime then 2 * n else 1 := by
          refine Finset.prod_le_prod' fun p _ => ?_
          split_ifs with prime
          · rw [Nat.centralBinom_eq_two_mul_choose]
            exact Nat.pow_factorization_choose_le (by omega)
          · rw [Nat.factorization_eq_zero_of_non_prime _ prime, pow_zero]
      _ = (2 * n) ^ Nat.primeCounting (2 * n) := by
          rw [Finset.prod_ite, Finset.prod_const_one, mul_one, Finset.prod_const,
            Nat.primeCounting, Nat.primeCounting', Nat.count_eq_card_filter_range]
  calc 4 ^ n ≤ 2 * n * n.centralBinom := Nat.four_pow_le_two_mul_self_mul_centralBinom n pos
    _ ≤ 2 * n * (2 * n) ^ Nat.primeCounting (2 * n) := Nat.mul_le_mul_left _ bound

/-- The bound at `n = 2^k`, with the powers of two compared by their exponents. -/
theorem primeCounting_two_pow (k : Nat) :
    2 ^ (k + 1) ≤ (k + 1) + (k + 1) * Nat.primeCounting (2 ^ (k + 1)) := by
  have bound := four_pow_le_primeCounting (2 ^ k) (Nat.two_pow_pos k)
  have four : 4 ^ 2 ^ k = 2 ^ 2 ^ (k + 1) := by rw [Nat.pow_succ, Nat.pow_mul']
  rw [show 2 * 2 ^ k = 2 ^ (k + 1) from (Nat.pow_succ' ..).symm, four, ← Nat.pow_mul,
    ← Nat.pow_add] at bound
  exact (Nat.pow_le_pow_iff_right (by norm_num)).1 bound

/-- The first 4095 primes are below `2^16 + 1`. -/
theorem nth_prime_lt_of_lt {k : Nat} (small : k < 4095) : Nat.nth Nat.Prime k < 2 ^ 16 + 1 := by
  have bound := primeCounting_two_pow 15
  rw [show 15 + 1 = 16 from rfl, Nat.primeCounting, Nat.primeCounting'] at bound
  exact Nat.nth_lt_of_lt_count (by omega)

end Chebyshev

end Coggml

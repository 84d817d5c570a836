import Mathlib

/-!
# The shell's prime task

`shell.rs`: `prime sync n` and `prime async n k` start tasks that run `naive_nth_prime(n)`. It
counts the primes from 2 up, testing each with trial division (`is_prime`), until it has found `n`
of them, and logs `i` as the `n`th prime. `n`, `i` and `found_primes` are `usize`s, and the debug
build panics where `+= 1` overflows.

The count of primes below `i` is the loop's invariant (`naiveNthPrimeLoop_eq`). The loop ends one
step after the `n`th prime, so the value logged is that prime plus one, and where that value does
not fit a `usize` the loop panics first (`naiveNthPrime_logs_successor`).
-/

namespace RustOs.Shell

/-- `is_prime`: no divisor in `2..x`. -/
def isPrime (x : UInt64) : Bool := (List.range' 2 (x.toNat - 2)).all fun i => x.toNat % i != 0

/-- `x += 1` on a `usize`, which panics in the debug build at `usize::MAX`. -/
def increment (x : UInt64) : Option UInt64 := if x.toNat + 1 < 2 ^ 64 then some (x + 1) else none

/-- The `while` loop of `naive_nth_prime` from `i` with `found_primes` primes found, at most `fuel`
times round: the `i` it ends with. -/
def naiveNthPrimeLoop (n : UInt64) (fuel : Nat) (i foundPrimes : UInt64) : Option UInt64 :=
  if foundPrimes < n then
    match fuel with
    | 0 => none
    | fuel + 1 =>
        match (if isPrime i then increment foundPrimes else some foundPrimes), increment i with
        | some foundPrimes, some i => naiveNthPrimeLoop n fuel i foundPrimes
        | _, _ => none
  else some i

/-- `naive_nth_prime`: the `i` it logs as the `n`th prime. -/
def naiveNthPrime (n : UInt64) (fuel : Nat) : Option UInt64 := naiveNthPrimeLoop n fuel 2 0

theorem increment_eq {x : UInt64} (fits : x.toNat + 1 < 2 ^ 64) :
    increment x = some (x + 1) := if_pos fits

theorem toNat_increment {x : UInt64} (fits : x.toNat + 1 < 2 ^ 64) : (x + 1).toNat = x.toNat + 1 := by
  rw [UInt64.toNat_add, UInt64.toNat_one, Nat.mod_eq_of_lt fits]

theorem isPrime_iff {x : UInt64} (hx : 2 ≤ x.toNat) : isPrime x = true ↔ x.toNat.Prime := by
  rw [Nat.prime_def_lt', isPrime, List.all_eq_true]
  simp only [List.mem_range'_1, bne_iff_ne, ne_eq, ← Nat.dvd_iff_mod_eq_zero]
  constructor
  · intro h
    exact ⟨hx, fun m hm hlt => h m ⟨hm, by omega⟩⟩
  · rintro ⟨-, h⟩ m ⟨hm, hlt⟩
    exact h m hm (by omega)

theorem count_prime_succ {i : UInt64} (hi : 2 ≤ i.toNat) :
    Nat.count Nat.Prime (i.toNat + 1) =
      if isPrime i then Nat.count Nat.Prime i.toNat + 1 else Nat.count Nat.Prime i.toNat := by
  rw [Nat.count_succ]
  by_cases prime : i.toNat.Prime
  · rw [if_pos prime, if_pos ((isPrime_iff hi).mpr prime)]
  · rw [if_neg prime, if_neg fun h => prime ((isPrime_iff hi).mp h), Nat.add_zero]

section Loop

variable {n : UInt64} (hn : 1 ≤ n.toNat)
include hn

theorem count_lt_of_le_nth {i : Nat} (hi : i ≤ Nat.nth Nat.Prime (n.toNat - 1)) :
    Nat.count Nat.Prime i < n.toNat := by
  have below := Nat.count_monotone Nat.Prime hi
  rw [Nat.count_nth_of_infinite Nat.infinite_setOfPred_prime] at below
  omega

theorem count_nth_succ : Nat.count Nat.Prime (Nat.nth Nat.Prime (n.toNat - 1) + 1) = n.toNat := by
  rw [Nat.count_succ, Nat.count_nth_of_infinite Nat.infinite_setOfPred_prime,
    if_pos (Nat.prime_nth_prime (n.toNat - 1))]
  omega

theorem naiveNthPrimeLoop_eq {fuel : Nat} {i foundPrimes : UInt64} (hi2 : 2 ≤ i.toNat)
    (hi : i.toNat ≤ Nat.nth Nat.Prime (n.toNat - 1) + 1)
    (counted : foundPrimes.toNat = Nat.count Nat.Prime i.toNat)
    (enough : Nat.nth Nat.Prime (n.toNat - 1) + 1 - i.toNat ≤ fuel) :
    naiveNthPrimeLoop n fuel i foundPrimes =
      if Nat.nth Nat.Prime (n.toNat - 1) + 1 < 2 ^ 64 then
        some (UInt64.ofNat (Nat.nth Nat.Prime (n.toNat - 1) + 1))
      else none := by
  induction fuel generalizing i foundPrimes with
  | zero =>
      -- no fuel left: the loop must already be at its end
      have last : i.toNat = Nat.nth Nat.Prime (n.toNat - 1) + 1 := by omega
      have done : ¬foundPrimes < n := by
        rw [UInt64.lt_iff_toNat_lt, counted, last, count_nth_succ hn]
        exact Nat.lt_irrefl _
      rw [naiveNthPrimeLoop, if_neg done, ← last, if_pos i.toNat_lt, UInt64.ofNat_toNat]
  | succ fuel ih =>
      rw [naiveNthPrimeLoop]
      by_cases last : i.toNat = Nat.nth Nat.Prime (n.toNat - 1) + 1
      · have done : ¬foundPrimes < n := by
          rw [UInt64.lt_iff_toNat_lt, counted, last, count_nth_succ hn]
          exact Nat.lt_irrefl _
        rw [if_neg done, ← last, if_pos i.toNat_lt, UInt64.ofNat_toNat]
      · have more : Nat.count Nat.Prime i.toNat < n.toNat := count_lt_of_le_nth hn (by omega)
        have notDone : foundPrimes < n := by
          rw [UInt64.lt_iff_toNat_lt, counted]
          exact more
        -- `found_primes` stays below `n`, so only `i += 1` can overflow
        have foundFits : foundPrimes.toNat + 1 < 2 ^ 64 := by
          have := n.toNat_lt
          omega
        have found : (if isPrime i then increment foundPrimes else some foundPrimes) =
            some (if isPrime i then foundPrimes + 1 else foundPrimes) := by
          split <;> simp only [increment_eq foundFits]
        rw [if_pos notDone, found]
        by_cases fits : i.toNat + 1 < 2 ^ 64
        · rw [increment_eq fits]
          refine ih (by rw [toNat_increment fits]; omega) (by rw [toNat_increment fits]; omega)
            ?_ (by rw [toNat_increment fits]; omega)
          rw [toNat_increment fits, count_prime_succ hi2]
          split
          · rw [toNat_increment foundFits, counted]
          · exact counted
        · -- `i` is `usize::MAX` below the `n`th prime plus one: `i += 1` panics
          have tooLarge : ¬Nat.nth Nat.Prime (n.toNat - 1) + 1 < 2 ^ 64 := by
            have := i.toNat_lt
            omega
          rw [increment, if_neg fits, if_neg tooLarge]

/-- `naive_nth_prime(n)`, for `n` at least one, logs the `n`th prime plus one: the loop counts the
prime it looks for and moves past it before it stops. Where that value does not fit a `usize`,
`i += 1` panics on the way. -/
theorem naiveNthPrime_logs_successor {fuel : Nat} (enough : Nat.nth Nat.Prime (n.toNat - 1) ≤ fuel) :
    naiveNthPrime n fuel =
      if Nat.nth Nat.Prime (n.toNat - 1) + 1 < 2 ^ 64 then
        some (UInt64.ofNat (Nat.nth Nat.Prime (n.toNat - 1) + 1))
      else none := by
  have two_le : 2 ≤ Nat.nth Nat.Prime (n.toNat - 1) := (Nat.prime_nth_prime (n.toNat - 1)).two_le
  have start : (0 : UInt64).toNat = Nat.count Nat.Prime (2 : UInt64).toNat := by decide
  exact naiveNthPrimeLoop_eq hn (by decide) (by simp only [UInt64.reduceToNat]; omega) start
    (by simp only [UInt64.reduceToNat]; omega)

end Loop

theorem naiveNthPrime_logs_successor_one :
    1 ≤ (1 : UInt64).toNat ∧ Nat.nth Nat.Prime ((1 : UInt64).toNat - 1) ≤ 2 ∧ naiveNthPrime 1 2 = some 3 :=
  have logged := @naiveNthPrime_logs_successor 1 (by decide) 2 (by simp)
  ⟨by decide, by simp, by simpa using logged⟩

end RustOs.Shell

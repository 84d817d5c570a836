import Mathlib

/-!
# The HPET clock and the timers of the tick

`elapsed_milliseconds` of `hpet.rs`, and the timer list of `tick.rs`: `add_timer`,
`add_relative_timer` and the part of `tick_broadcast_handler` that fires and removes the timers
that are due. A timer's callback is a value of a type `α`; firing it is putting it on the list
of callbacks the handler run calls, in order.

`elapsed_milliseconds` multiplies the main counter by the counter clock period in `u64`
femtoseconds; in the debug build the kernel is built in, an overflow panics, which is `none`
here, as is the overflow of `Milliseconds + Milliseconds`. The product passes `2 ^ 64` after
`2 ^ 64` femtoseconds of uptime, about 5.1 hours, whatever the period
(`elapsedMilliseconds_panics_after`). Before that the clock is `counter * period / 10 ^ 12`
and never goes back (`elapsedMilliseconds_mono`), and a handler run fires exactly the timers
that are due (`tickBroadcastHandler_eq`), so a timer fires in the first run whose clock has
reached its expiration and in no other (`handlerRuns_fires_once`).
-/

namespace RustOs

/-- `Milliseconds(u64)`, compared by its value (`derive(PartialOrd, Ord)`). -/
structure Milliseconds where
  val : UInt64
  deriving DecidableEq, Repr

namespace Milliseconds

/-- `from_femtoseconds`. -/
def fromFemtoseconds (femtoseconds : UInt64) : Milliseconds := ⟨femtoseconds / 1000000000000⟩

/-- `Add`: the `u64` sum, which panics on overflow. -/
def add (self rhs : Milliseconds) : Option Milliseconds :=
  if self.val.toNat + rhs.val.toNat < 2 ^ 64 then some ⟨self.val + rhs.val⟩ else none

theorem add_eq_some {self rhs : Milliseconds} (fits : self.val.toNat + rhs.val.toNat < 2 ^ 64) :
    ∃ sum, self.add rhs = some sum ∧ sum.val.toNat = self.val.toNat + rhs.val.toNat :=
  ⟨_, if_pos fits, by rw [UInt64.toNat_add, Nat.mod_eq_of_lt fits]⟩

end Milliseconds

/-- The two registers of the HPET that `elapsed_milliseconds` reads: the counter clock period of
the capabilities, in femtoseconds, and the main counter. -/
structure Hpet where
  counterClockPeriod : UInt32
  mainCounterValue : UInt64
  deriving DecidableEq, Repr

/-- `elapsed_milliseconds`: `tick * u64::from(interval_femtoseconds)` in `u64`, then
`from_femtoseconds`. -/
def elapsedMilliseconds (hpet : Hpet) : Option Milliseconds :=
  let interval := hpet.counterClockPeriod.toUInt64
  let tick := hpet.mainCounterValue
  if tick.toNat * interval.toNat < 2 ^ 64 then some (Milliseconds.fromFemtoseconds (tick * interval))
  else none

theorem elapsedMilliseconds_eq_some {hpet : Hpet}
    (fits : hpet.mainCounterValue.toNat * hpet.counterClockPeriod.toNat < 2 ^ 64) :
    ∃ now, elapsedMilliseconds hpet = some now ∧
      now.val.toNat = hpet.mainCounterValue.toNat * hpet.counterClockPeriod.toNat / 10 ^ 12 := by
  have interval : hpet.counterClockPeriod.toUInt64.toNat = hpet.counterClockPeriod.toNat :=
    UInt32.toNat_toUInt64 _
  refine ⟨_, if_pos (by rw [interval]; exact fits), ?_⟩
  rw [Milliseconds.fromFemtoseconds, UInt64.toNat_div, UInt64.toNat_mul, interval,
    Nat.mod_eq_of_lt fits]
  rfl

theorem elapsedMilliseconds_eq_none {hpet : Hpet}
    (overflow : 2 ^ 64 ≤ hpet.mainCounterValue.toNat * hpet.counterClockPeriod.toNat) :
    elapsedMilliseconds hpet = none := by
  have interval : hpet.counterClockPeriod.toUInt64.toNat = hpet.counterClockPeriod.toNat :=
    UInt32.toNat_toUInt64 _
  exact if_neg (by rw [interval]; omega)

/-- For every period of at least 2 fs, the clock is `counter * period / 10 ^ 12` until the
counter reaches `ceil(2 ^ 64 / period)`, which it does within `2 ^ 64` femtoseconds and one
period of uptime; from then on the product overflows and `elapsed_milliseconds` panics. -/
theorem elapsedMilliseconds_panics_after (period : UInt32) (fast : 2 ≤ period.toNat) :
    (2 ^ 64 + period.toNat - 1) / period.toNat < 2 ^ 64 ∧
      (2 ^ 64 + period.toNat - 1) / period.toNat * period.toNat < 2 ^ 64 + period.toNat ∧
      (∀ counter : UInt64, counter.toNat < (2 ^ 64 + period.toNat - 1) / period.toNat →
        ∃ now, elapsedMilliseconds ⟨period, counter⟩ = some now ∧
          now.val.toNat = counter.toNat * period.toNat / 10 ^ 12) ∧
      ∀ counter : UInt64, (2 ^ 64 + period.toNat - 1) / period.toNat ≤ counter.toNat →
        elapsedMilliseconds ⟨period, counter⟩ = none := by
  -- `ceil(2 ^ 64 / period)` is the least counter whose product reaches `2 ^ 64`
  have bound : (2 : Nat) ^ 64 = 18446744073709551616 := rfl
  have small := period.toNat_lt
  have least : ∀ counter : Nat, (2 ^ 64 + period.toNat - 1) / period.toNat ≤ counter ↔
      2 ^ 64 ≤ counter * period.toNat := by
    intro counter
    rw [Nat.div_le_iff_le_mul_add_pred (by omega), Nat.mul_comm counter, bound]
    omega
  refine ⟨?_, ?_, fun counter early => elapsedMilliseconds_eq_some ?_,
    fun counter late => elapsedMilliseconds_eq_none ((least _).mp late)⟩
  · rw [bound]
    exact Nat.div_lt_of_lt_mul (by omega)
  · have := Nat.div_mul_le_self (2 ^ 64 + period.toNat - 1) period.toNat
    rw [bound] at this ⊢
    omega
  · exact Nat.lt_of_not_le fun overflow => Nat.not_le_of_lt early ((least _).mpr overflow)

/-- At the largest period the HPET allows, 100 ns, the clock panics when the counter reaches
184467440738, after about 5.1 hours. -/
theorem elapsedMilliseconds_panics_after_100ns :
    2 ≤ (0x05F5E100 : UInt32).toNat ∧
      (2 ^ 64 + (0x05F5E100 : UInt32).toNat - 1) / (0x05F5E100 : UInt32).toNat = 184467440738 ∧
      elapsedMilliseconds ⟨0x05F5E100, 184467440738⟩ = none :=
  have panics := elapsedMilliseconds_panics_after 0x05F5E100 (by decide)
  ⟨by decide, by decide, panics.2.2.2 184467440738 (by decide)⟩

theorem elapsedMilliseconds_mono {period : UInt32} {counter counter' : UInt64}
    {now now' : Milliseconds} (grows : counter.toNat ≤ counter'.toNat)
    (read : elapsedMilliseconds ⟨period, counter⟩ = some now)
    (read' : elapsedMilliseconds ⟨period, counter'⟩ = some now') :
    now.val.toNat ≤ now'.val.toNat := by
  have fits : counter'.toNat * period.toNat < 2 ^ 64 := by
    by_contra overflow
    rw [elapsedMilliseconds_eq_none (Nat.le_of_not_lt overflow)] at read'
    cases read'
  obtain ⟨n, found, value⟩ := @elapsedMilliseconds_eq_some ⟨period, counter⟩
    (Nat.lt_of_le_of_lt (Nat.mul_le_mul_right period.toNat grows) fits)
  obtain ⟨n', found', value'⟩ := @elapsedMilliseconds_eq_some ⟨period, counter'⟩ fits
  rw [read] at found
  rw [read'] at found'
  cases found
  cases found'
  rw [value, value']
  exact Nat.div_le_div_right (Nat.mul_le_mul_right _ grows)

/-! ## Timers -/

/-- `Timer`: its expiration, in milliseconds since boot, and its callback. -/
structure Timer (α : Type) where
  expiration : Milliseconds
  callback : α
  deriving DecidableEq, Repr

section Timers

variable {α : Type}

/-- `add_timer`: at the back of the list. -/
def addTimer (timers : List (Timer α)) (expiration : Milliseconds) (callback : α) :
    List (Timer α) :=
  timers ++ [⟨expiration, callback⟩]

/-- `add_relative_timer`: expires `timeout` after the clock now. -/
def addRelativeTimer (hpet : Hpet) (timers : List (Timer α)) (timeout : Milliseconds)
    (callback : α) : Option (List (Timer α)) := do
  let currentMillis ← elapsedMilliseconds hpet
  let expiration ← currentMillis.add timeout
  some (addTimer timers expiration callback)

/-- The `retain_mut` of `tick_broadcast_handler`, in order: each timer reads the clock, and one
that is due is fired and removed. The result is the callbacks fired and the timers kept. -/
def retainLoop (hpet : Hpet) : List (Timer α) → Option (List α × List (Timer α))
  | [] => some ([], [])
  | timer :: timers => do
      let now ← elapsedMilliseconds hpet
      let (fired, kept) ←
        if timer.expiration.val ≤ now.val then
          some ([timer.callback], [])
        else some ([], [timer])
      let (firedRest, keptRest) ← retainLoop hpet timers
      some (fired ++ firedRest, kept ++ keptRest)

/-- `tick_broadcast_handler`, up to the IPI it sends to every CPU. -/
def tickBroadcastHandler (hpet : Hpet) (timers : List (Timer α)) :
    Option (List α × List (Timer α)) :=
  retainLoop hpet timers

theorem tickBroadcastHandler_eq {hpet : Hpet} {now : Milliseconds}
    (read : elapsedMilliseconds hpet = some now) :
    ∀ timers : List (Timer α), tickBroadcastHandler hpet timers =
      some ((timers.filter fun timer => timer.expiration.val ≤ now.val).map (·.callback),
        timers.filter fun timer => ¬timer.expiration.val ≤ now.val)
  | [] => rfl
  | timer :: timers => by
      have rest := tickBroadcastHandler_eq read timers
      unfold tickBroadcastHandler at rest ⊢
      by_cases due : timer.expiration.val ≤ now.val
      · simp [retainLoop, read, due, rest]
      · have later : now.val < timer.expiration.val := UInt64.not_le.mp due
        simp [retainLoop, read, due, rest, later]

def handlerRuns : List Hpet → List (Timer α) → Option (List (List α))
  | [], _ => some []
  | hpet :: hpets, timers => do
      let (fired, kept) ← tickBroadcastHandler hpet timers
      let later ← handlerRuns hpets kept
      some (fired :: later)

theorem tickBroadcastHandler_eq_some {hpet : Hpet} {timers : List (Timer α)}
    {fired : List α} {kept : List (Timer α)} (handled : tickBroadcastHandler hpet timers = some (fired, kept)) :
    ∃ now : Milliseconds, fired = (timers.filter fun timer => timer.expiration.val ≤ now.val).map (·.callback) ∧
      kept = timers.filter fun timer => ¬timer.expiration.val ≤ now.val := by
  cases timers with
  | nil =>
      cases handled
      exact ⟨⟨0⟩, rfl, rfl⟩
  | cons timer timers =>
      cases read : elapsedMilliseconds hpet with
      | none => simp [tickBroadcastHandler, retainLoop, read] at handled
      | some now =>
          rw [tickBroadcastHandler_eq read, Option.some.injEq, Prod.mk.injEq] at handled
          exact ⟨now, handled.1.symm, handled.2.symm⟩

theorem mem_of_handlerRuns :
    ∀ {hpets : List Hpet} {timers : List (Timer α)} {runs : List (List α)},
      handlerRuns hpets timers = some runs →
      ∀ fired ∈ runs, ∀ callback ∈ fired, callback ∈ timers.map (·.callback)
  | [], _, runs, found => by
      simp only [handlerRuns, Option.some.injEq] at found
      subst found
      simp
  | hpet :: hpets, timers, runs, found => by
      simp only [handlerRuns, bind, Option.bind_eq_some_iff, Option.some.injEq] at found
      obtain ⟨⟨firedNow, kept⟩, handled, later, laterFound, rfl⟩ := found
      obtain ⟨now, rfl, rfl⟩ := tickBroadcastHandler_eq_some handled
      intro fired mem callback firedMem
      rcases List.mem_cons.mp mem with rfl | laterMem
      · exact List.map_subset _ List.filter_sublist.subset firedMem
      · exact List.map_subset _ List.filter_sublist.subset
          (mem_of_handlerRuns laterFound fired laterMem callback firedMem)

theorem handlerRuns_isSome :
    ∀ {hpets : List Hpet} {nows : List Milliseconds},
      List.Forall₂ (fun hpet now => elapsedMilliseconds hpet = some now) hpets nows →
      ∀ timers : List (Timer α), ∃ runs, handlerRuns hpets timers = some runs ∧
        runs.length = nows.length
  | [], [], .nil, _ => ⟨[], rfl, rfl⟩
  | hpet :: hpets, now :: nows, .cons read reads, timers => by
      obtain ⟨later, laterFound, length⟩ := handlerRuns_isSome reads
        (timers.filter fun timer => ¬timer.expiration.val ≤ now.val)
      refine ⟨(timers.filter fun timer => timer.expiration.val ≤ now.val).map (·.callback) :: later,
        ?_, by rw [List.length_cons, List.length_cons, length]⟩
      simp only [handlerRuns, tickBroadcastHandler_eq read, laterFound, bind, Option.bind_some]

theorem handlerRuns_fires_once :
    ∀ {hpets : List Hpet} {nows : List Milliseconds},
      List.Forall₂ (fun hpet now => elapsedMilliseconds hpet = some now) hpets nows →
      ∀ {timers : List (Timer α)}, (timers.map (·.callback)).Nodup →
      ∀ {timer : Timer α}, timer ∈ timers →
      ∃ runs, handlerRuns hpets timers = some runs ∧ runs.length = nows.length ∧
        ∀ i fired, runs[i]? = some fired →
          (timer.callback ∈ fired ↔ nows.findIdx? (fun now => timer.expiration.val ≤ now.val) = some i)
  | [], [], .nil, _, _, _, _ => ⟨[], rfl, rfl, fun i fired none => by simp at none⟩
  | hpet :: hpets, now :: nows, .cons read reads, timers, distinct, timer, mem => by
      -- two timers with one callback are one timer
      have same : ∀ other ∈ timers, other.callback = timer.callback → other = timer :=
        fun other otherMem eq => List.inj_on_of_nodup_map distinct otherMem mem eq
      obtain ⟨kept, keptEq⟩ :
          ∃ kept, (timers.filter fun timer => ¬timer.expiration.val ≤ now.val) = kept := ⟨_, rfl⟩
      have keptDistinct : (kept.map (·.callback)).Nodup :=
        keptEq ▸ distinct.sublist (List.filter_sublist.map _)
      obtain ⟨later, laterFound, length⟩ := handlerRuns_isSome reads kept
      refine ⟨(timers.filter fun timer => timer.expiration.val ≤ now.val).map (·.callback) :: later,
        ?_, by rw [List.length_cons, List.length_cons, length], ?_⟩
      · simp only [handlerRuns, tickBroadcastHandler_eq read, keptEq, laterFound, bind,
          Option.bind_some]
      have firedNow : timer.callback ∈
          (timers.filter fun timer => timer.expiration.val ≤ now.val).map (·.callback) ↔
            timer.expiration.val ≤ now.val := by
        constructor
        · intro firedMem
          obtain ⟨other, otherMem, eq⟩ := List.mem_map.mp firedMem
          obtain ⟨inTimers, due⟩ := List.mem_filter.mp otherMem
          rw [← same other inTimers eq]
          simpa using due
        · intro due
          exact List.mem_map_of_mem (List.mem_filter.mpr ⟨mem, by simpa using due⟩)
      intro i fired found
      rw [List.findIdx?_cons]
      by_cases due : timer.expiration.val ≤ now.val
      · -- fired in this run, and never again: no timer kept has its callback
        rw [if_pos (by simpa using due)]
        cases i with
        | zero =>
            simp only [List.getElem?_cons_zero, Option.some.injEq] at found
            subst found
            exact iff_of_true (firedNow.mpr due) rfl
        | succ i =>
            simp only [List.getElem?_cons_succ] at found
            refine iff_of_false (fun firedMem => ?_) (by simp)
            obtain ⟨other, otherMem, eq⟩ := List.mem_map.mp
              (mem_of_handlerRuns laterFound fired (List.mem_of_getElem? found) _ firedMem)
            rw [← keptEq] at otherMem
            have := (List.mem_filter.mp otherMem).2
            rw [same other (List.mem_filter.mp otherMem).1 eq] at this
            simp [due] at this
      · rw [if_neg (by simpa using due)]
        have keptMem : timer ∈ kept := keptEq ▸ List.mem_filter.mpr ⟨mem, by simpa using due⟩
        obtain ⟨later', laterFound', -, fires⟩ := handlerRuns_fires_once reads keptDistinct keptMem
        rw [laterFound] at laterFound'
        cases laterFound'
        cases i with
        | zero =>
            simp only [List.getElem?_cons_zero, Option.some.injEq] at found
            subst found
            refine iff_of_false (fun firedMem => due (firedNow.mp firedMem)) ?_
            intro shifted
            obtain ⟨j, -, zero⟩ := Option.map_eq_some_iff.mp shifted
            omega
        | succ i =>
            simp only [List.getElem?_cons_succ] at found
            rw [fires i fired found]
            constructor
            · intro first
              rw [first]
              rfl
            · intro shifted
              obtain ⟨j, first, next⟩ := Option.map_eq_some_iff.mp shifted
              rw [first, show j = i by omega]

end Timers

end RustOs
